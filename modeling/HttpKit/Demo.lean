import HttpKit.Router

/-!
# The demonstration

A small application to try the server with: a word of welcome, a greeting by name and an echo.
-/

namespace HttpKit.Demo

variable {ω : Type}

/-- Says that the server runs. -/
def index : Handler ω := fun _ => return .response (.text 200 "minihttp is running\n")

/-- The value, unless there is none or it is empty. -/
def orElse (value : Option String) (otherwise : String) : String :=
  (value.filter (· ≠ "")).getD otherwise

/-- Greets the name in the path with the word in the query. -/
def hello : Handler ω := fun request =>
  let greeting := orElse (request.queryParam "greeting") "Hello"
  let name := (request.captured? "name").getD "None"
  return .response (.text 200 s!"{greeting}, {name}!\n")

/-- Sends the body back. -/
def echo : Handler ω := fun request =>
  let type := orElse (request.header "Content-Type") "application/octet-stream"
  return .response (.of 200 (.ofList [("Content-Type", type)]) request.body)

/-- The routes of the demonstration. -/
def router : Router ω :=
  Router.new
    |>.insert .get [] index
    |>.insert .get [.literal "hello", .capture "name"] hello
    |>.insert .post [.literal "echo"] echo

end HttpKit.Demo
