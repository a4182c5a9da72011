import FlowLint.Json.Value

/-!
# Flow exports

An export is a list of nodes. Function nodes with code are units; the tab that a unit stands on
is its group, and the label of the tab is the name of the group.

* `FlowExport.groupIds` lists the groups in the order in which they first appear.
* `FlowExport.units` lists the units of a group in the order of the export.
-/

namespace FlowLint

/-- A unit of code in an export. -/
structure UnitSource where
  id : String
  name : String
  text : String
  deriving Repr, DecidableEq, Inhabited

/-- Where units come from: groups with a name and units each. -/
structure UnitProvider where
  groupIds : List String
  groupName : String → String
  units : String → List UnitSource

/-- An export: its nodes, which are all objects. -/
structure FlowExport where
  nodes : List Json

/-- Is a value the given text? -/
def Json.isText (j : Json) (text : String) : Bool :=
  match j with
  | .string s => s = text
  | _ => false

/-- Is a value an object? -/
def Json.isObject : Json → Bool
  | .object _ => true
  | _ => false

/-- The first characters of a text. -/
def shortened (text : String) : String :=
  String.ofList (text.toList.take 8)

namespace FlowExport

/-- The text of a member; empty if it is not given. -/
def textOf (node : Json) (key : String) : String :=
  ((node.get? key).getD (.string "")).text

/-- The nodes among the items of a list. -/
def ofItems (items : List Json) : FlowExport :=
  ⟨items.filter Json.isObject⟩

/-- What to tell about a value that is no export. -/
def formatMessage : String := "Flow export must be a JSON array of nodes"

/-- The export that a value holds: a list of nodes, or an object with such a list. -/
def ofJson? (data : Json) : Option FlowExport :=
  match data.field "flows", data with
  | .array items, _ => some (ofItems items)
  | _, .array items => some (ofItems items)
  | _, _ => none

/-- Is a node a unit? -/
def isUnit (node : Json) : Bool :=
  (node.field "type").isText "function" && (node.field "func").truthy

/-- The group that a unit belongs to. -/
def groupOf (node : Json) : String :=
  textOf node "z"

/-- The units of an export, as nodes. -/
def unitNodes (e : FlowExport) : List Json :=
  e.nodes.filter isUnit

/-- Texts in the order in which they first appear, each once. -/
def firstAppearances (texts : List String) : List String :=
  texts.foldl (fun seen text => if text ∈ seen then seen else seen ++ [text]) []

/-- The groups, in the order in which they first appear. -/
def groupIds (e : FlowExport) : List String :=
  firstAppearances (e.unitNodes.map groupOf)

/-- The name to show for a unit. -/
def displayName (node : Json) : String :=
  if (node.field "name").truthy then (node.field "name").text
  else "Function Node " ++ shortened (textOf node "id")

/-- The unit that a node holds. -/
def unitOf (node : Json) : UnitSource :=
  { id := textOf node "id", name := displayName node, text := (node.field "func").text }

/-- The units of a group, in the order of the export. -/
def units (e : FlowExport) (groupId : String) : List UnitSource :=
  (e.unitNodes.filter fun node => groupOf node = groupId).map unitOf

/-- The label of a tab: its own one, or its name. -/
def labelOf (node : Json) : String :=
  if (node.field "label").truthy then (node.field "label").text
  else if (node.field "name").truthy then (node.field "name").text
  else ""

/-- Is a node a tab with an identifier? -/
def isTab (node : Json) : Bool :=
  (node.field "type").isText "tab" && (node.field "id").truthy

/-- The label of the last tab with the given identifier. -/
def tabLabel? (e : FlowExport) (id : String) : Option String :=
  ((e.nodes.filter fun node => isTab node && textOf node "id" = id).getLast?).map labelOf

/-- The name of a group: the label of its tab, or a name made of its identifier. -/
def groupName (e : FlowExport) (groupId : String) : String :=
  let label := (e.tabLabel? groupId).getD ""
  if label != "" then label
  else if groupId = "" then "Global"
  else "Flow " ++ shortened groupId

/-- An export provides the units on its tabs. -/
def provider (e : FlowExport) : UnitProvider :=
  { groupIds := e.groupIds, groupName := e.groupName, units := e.units }

instance : Coe FlowExport UnitProvider :=
  ⟨provider⟩

end FlowExport

end FlowLint
