import NodeConsole.Text.Basic

/-!
Text for an HTML page: the five characters that mark up are replaced by entities, the ampersand
first, so that the ampersands of the other entities stay. The page that reports an error is made of
such text.
-/

namespace NodeConsole.Page

def replaceUnit (unit : UInt16) (replacement text : Text) : Text :=
  ⟨text.units.flatMap fun other => if other = unit then replacement.units else [other]⟩

def ampersand : UInt16 := 0x26

def lessThan : UInt16 := 0x3C

def greaterThan : UInt16 := 0x3E

def quote : UInt16 := 0x22

def apostrophe : UInt16 := 0x27

def escape (text : Text) : Text :=
  let ampersands := replaceUnit ampersand "&amp;" text
  let less := replaceUnit lessThan "&lt;" ampersands
  let greater := replaceUnit greaterThan "&gt;" less
  let quotes := replaceUnit quote "&quot;" greater
  replaceUnit apostrophe "&#x27;" quotes

def errorPage (title message : Text) : Text :=
  "<!DOCTYPE html>\n<html lang=\"en\">\n<head>\n  <meta charset=\"UTF-8\">\n  <title>Error - "
    ++ escape title ++ "</title>\n</head>\n<body>\n  <h1>" ++ escape title ++ "</h1>\n  <p>"
    ++ escape message ++ "</p>\n</body>\n</html>"

end NodeConsole.Page
