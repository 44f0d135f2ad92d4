import NodeConsole.Http.Handler

/-!
Route tables. The first route with the path and the method of a request handles it; a route may
take every method.
-/

namespace NodeConsole.Http

structure Route where
  /-- A method, or a star for all of them. -/
  method : Text
  path : Text
  handler : Handler

namespace Route

def takesMethod (route : Route) (method : Text) : Bool :=
  route.method = "*" || route.method = method

inductive Selection where
  | handle (handler : Handler)
  | methodNotAllowed
  | notFound

def select (routes : List Route) (method path : Text) : Selection :=
  let onPath := routes.filter fun route => route.path = path
  match onPath.find? fun route => route.takesMethod method with
  | some route => .handle route.handler
  | none => if onPath.isEmpty then .notFound else .methodNotAllowed

end Route

end NodeConsole.Http
