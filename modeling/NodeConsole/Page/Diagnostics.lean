import NodeConsole.Text.Basic

/-!
The diagnostics page: a fixed template with three places, which take the peers, the code that was
submitted last and the store contents. What is put there is not escaped.
-/

namespace NodeConsole.Page

def placeMark : String := "<!-- PART -->"

def beforePeers : String :=
  "\n".intercalate [
    "<!DOCTYPE html>",
    "<html lang=\"en\">",
    "<head>",
    "  <meta charset=\"UTF-8\">",
    "  <title>rnode diagnostics</title>",
    "  <style>",
    "    body \x7b font-family: -apple-system, BlinkMacSystemFont, 'Segoe UI', sans-serif; " ++
      "margin: 24px; \x7d",
    "    textarea, pre \x7b font-family: monospace; \x7d",
    "    pre#store \x7b background: #f4f4f4; padding: 8px; white-space: pre-wrap; \x7d",
    "  </style>",
    "</head>",
    "<body>",
    "  <h1>rnode</h1>",
    "  <address>",
    "    <b>pre-release</b> for the",
    "    <a href=\"https://developer.rchain.coop/\">RChain Developer</a>",
    "    community",
    "  </address>",
    "",
    "  <h2>Peers</h2>",
    "  <ul>",
    ""]

def beforeCode : String :=
  "\n".intercalate [
    "",
    "  </ul>",
    "",
    "  <h2>Rholang and RSpace</h2>",
    "  <form action=\"\" method=\"post\">",
    "    <textarea name=\"rho1\" cols=\"40\" rows=\"10\">"]

def beforeStore : String :=
  "\n".intercalate [
    "</textarea>",
    "    <br />",
    "    <input type=\"submit\" value=\"Run\" />",
    "  </form>",
    "",
    "  <pre id=\"store\">",
    ""]

def afterStore : String :=
  "\n".intercalate [
    "",
    "  </pre>",
    "</body>",
    "</html>",
    ""]

def template : String :=
  beforePeers ++ placeMark ++ beforeCode ++ placeMark ++ beforeStore ++ placeMark ++ afterStore

structure Content where
  peers : List Text
  code : Text
  store : Text
deriving DecidableEq, Repr

def peerItems (peers : List Text) : Text :=
  Text.concat (peers.map fun peer => "<li>" ++ peer ++ "</li>")

def diagnostics (content : Content) : Text :=
  beforePeers ++ peerItems content.peers ++ beforeCode ++ content.code ++ beforeStore
    ++ content.store ++ afterStore

end NodeConsole.Page
