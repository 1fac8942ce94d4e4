import SheetQuery.Expr.Basic
import SheetQuery.Json.Basic

/-! Expressions given as syntax trees in JSON. A node is an object whose `type` names its kind. Reading
never fails: a part that is missing or not understood becomes `unsupported`, a call without arguments has
none, and one without a callee has no name. -/

namespace SheetQuery.Expr

/-- What a JSON value stands for as a node, and as the arguments of a call. -/
structure Reading where
  node : Expr
  args : List Expr

def undefined : Expr := unsupported "undefined"

/-- The literal that a value stands for; arrays and objects are none. -/
def ofLiteral : Option Json → Expr
  | none => null
  | some .null => null
  | some (.bool b) => literal (.boolean b)
  | some (.text s) => text s
  | some (.number n) => number n
  | some (.array _) => unsupported "Literal"
  | some (.object _) => unsupported "Literal"

/-- The node with these fields, each given with what it stands for. -/
def ofFields (fields : List (String × Json × Reading)) : Expr :=
  let value? name := (Json.lastNamed? name fields).map Prod.fst
  let text? name := (value? name).bind Json.text?
  let child name := ((Json.lastNamed? name fields).map fun f => f.2.node).getD undefined
  let operator := (text? "operator").getD ""
  match (text? "type").getD "undefined" with
  | "Literal" => ofLiteral (value? "value")
  | "Identifier" =>
    match text? "name" with
    | some name => column name
    | none => unsupported "Identifier"
  | "BinaryExpression" => binary (.ofSymbol operator) (child "left") (child "right")
  | "LogicalExpression" => binary (.ofSymbol operator) (child "left") (child "right")
  | "UnaryExpression" => unary (.ofSymbol operator) (child "argument")
  | "CallExpression" =>
    let name := ((value? "callee").bind (Json.field? "name")).bind Json.text?
    call name (((Json.lastNamed? "arguments" fields).map fun f => f.2.args).getD [])
  | kind => unsupported kind

mutual

def readingOf : Json → Reading
  | .object fields => ⟨ofFields (readingsOfFields fields), []⟩
  | .array items => ⟨undefined, nodesOf items⟩
  | .null => ⟨undefined, []⟩
  | .bool _ => ⟨undefined, []⟩
  | .number _ => ⟨undefined, []⟩
  | .text _ => ⟨undefined, []⟩

def nodesOf : List Json → List Expr
  | [] => []
  | v :: vs => (readingOf v).node :: nodesOf vs

def readingsOfFields : List (String × Json) → List (String × Json × Reading)
  | [] => []
  | (name, v) :: fs => (name, v, readingOf v) :: readingsOfFields fs

end

def ofJson (v : Json) : Expr := (readingOf v).node

end SheetQuery.Expr
