/-!
# Pages of the service

The pages that a browser sees. All share one layout; titles are escaped.
-/

namespace FlowLint.Page

/-- A character as it is written in a page. -/
def escapedChar (c : Char) : String :=
  if c = '&' then "&amp;"
  else if c = '<' then "&lt;"
  else if c = '>' then "&gt;"
  else if c = '"' then "&quot;"
  else if c = '\'' then "&#x27;"
  else String.ofList [c]

/-- A text as it is written in a page. -/
def escaped (text : String) : String :=
  String.join (text.toList.map escapedChar)

/-- The style of all pages. -/
def style : String :=
  "\n".intercalate [
    "",
    "    body \x7b font-family: system-ui, sans-serif; max-width: 42rem; margin: 2rem auto; "
      ++ "padding: 0 1rem; \x7d",
    "    h1 \x7b font-size: 1.25rem; font-weight: 600; \x7d",
    "    ul \x7b list-style: none; padding: 0; \x7d",
    "    li \x7b margin: 0.5rem 0; \x7d",
    "    a \x7b color: #2563eb; text-decoration: none; \x7d",
    "    a:hover \x7b text-decoration: underline; \x7d",
    "    pre \x7b background: #f1f5f9; padding: 0.75rem; overflow-x: auto; \x7d",
    "    .meta \x7b color: #64748b; font-size: 0.875rem; margin-top: 1.5rem; \x7d",
    ""]

/-- Links at the end of all pages. -/
def navigation : String :=
  "<p class=\"meta\"><a href=\"/\">Home</a> · <a href=\"/docs\">Swagger UI</a> · "
    ++ "<a href=\"/redoc\">ReDoc</a> · <a href=\"/health\">Health</a></p>"

/-- What the first page says. -/
def rootBody : String :=
  "\n".intercalate [
    "",
    "  <p>Finds debugging leftovers in Node-RED function nodes and scores their quality.</p>",
    "  <p>Endpoints:</p>",
    "  <ul>",
    "    <li><a href=\"/docs\">/docs</a>: Swagger UI</li>",
    "    <li><a href=\"/redoc\">/redoc</a>: ReDoc</li>",
    "    <li><a href=\"/health\">/health</a>: Liveness</li>",
    "    <li><a href=\"/check\">/check</a>: Analyze one function body (POST)</li>",
    "    <li>/score/unit, /score/group, /score/system: Score posted issues (POST)</li>",
    "    <li>/scan: Analyze every function node of a flows.json export (POST)</li>",
    "    <li>/metrics/groups/\x7bgroup_id\x7d: Stored quality history of a flow</li>",
    "  </ul>",
    ""]

/-- What the page on checks says. -/
def checkBody : String :=
  "\n".intercalate [
    "",
    "  <p>POST JSON to <code>/check</code>:</p>",
    "  <pre>\x7b\"code\": \"node.warn(msg);\\nreturn msg;\", \"detection_level\": 2\x7d</pre>",
    "  <p><code>detection_level</code> is 1 (critical only), 2 (default) or 3 (everything).",
    "  Suppress findings with <code>// @nr-analyzer-ignore-start</code> / "
      ++ "<code>// @nr-analyzer-ignore-end</code>.</p>",
    ""]

/-- What a page says. -/
def body? : String → Option String
  | "root.html" => some rootBody
  | "check.html" => some checkBody
  | _ => none

/-- A page with a title. -/
def layout (title body : String) : String :=
  "<!DOCTYPE html>\n<html lang=\"en\">\n<head>\n  <meta charset=\"utf-8\">\n"
    ++ "  <meta name=\"viewport\" content=\"width=device-width, initial-scale=1\">\n"
    ++ "  <title>" ++ escaped title ++ "</title>\n  <style>" ++ style ++ "</style>\n</head>\n"
    ++ "<body>\n  <h1>" ++ escaped title ++ "</h1>\n" ++ body ++ "\n  " ++ navigation
    ++ "\n</body>\n</html>\n"

/-- The page of a name. -/
def render? (name title : String) : Option String :=
  (body? name).map (layout title)

end FlowLint.Page
