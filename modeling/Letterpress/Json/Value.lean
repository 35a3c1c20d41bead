import Letterpress.Number.Binary64
import Letterpress.Text.Escape
import Letterpress.Text.Join

/-!
# Structured Data

Values of the data format that designs are stored in. Whole numbers and numbers
with a fraction are told apart, and the members of an object keep their order.

## Main definitions

* `Json`: A value.
* `Json.get?`: A member of an object.
* `Json.truthy`: A value counts as present.
* `Json.display`: A value as text, strings without quotes.
* `putMember`: An object's members with one set.
-/

namespace Letterpress

/-- A value of structured data. -/
inductive Json where
  | null
  | bool (b : Bool)
  | int (n : Int)
  | real (x : Float)
  | str (s : String)
  | arr (items : List Json)
  | obj (members : List (String × Json))

instance : Inhabited Json :=
  ⟨.null⟩

/-- The members with one of them set. A new name goes to the end; a name that is
    there keeps its place. -/
def putMember {α : Type} (name : String) (value : α) : List (String × α) → List (String × α)
  | [] => [(name, value)]
  | (n, v) :: rest =>
    if n = name then (n, value) :: rest else (n, v) :: putMember name value rest

namespace Json

/-- The member of an object with a name; nothing for other values. -/
def get? (j : Json) (name : String) : Option Json :=
  match j with
  | obj members => members.lookup name
  | _ => none

/-- The member of an object with a name, `null` if there is none. -/
def member (j : Json) (name : String) : Json :=
  (j.get? name).getD null

/-- The value is neither null nor false nor zero nor empty. -/
def truthy : Json → Bool
  | null => false
  | bool b => b
  | int n => n != 0
  | real x => !(x == 0.0)
  | str s => !s.isEmpty
  | arr items => !items.isEmpty
  | obj members => !members.isEmpty

/-- The name of the value's type in messages. -/
def typeName : Json → String
  | null => "NoneType"
  | bool _ => "bool"
  | int _ => "int"
  | real _ => "float"
  | str _ => "str"
  | arr _ => "list"
  | obj _ => "dict"

mutual

/-- The value as text, strings in quotes. -/
def inspect : Json → String
  | null => "None"
  | bool true => "True"
  | bool false => "False"
  | int n => toString n
  | real x => floatText x
  | str s => Text.quoted s
  | arr items => "[" ++ Text.joinWith ", " (inspectItems items) ++ "]"
  | obj members => "\x7b" ++ Text.joinWith ", " (inspectMembers members) ++ "\x7d"

/-- The values of a list as text. -/
def inspectItems : List Json → List String
  | [] => []
  | j :: rest => inspect j :: inspectItems rest

/-- The members of an object as text. -/
def inspectMembers : List (String × Json) → List String
  | [] => []
  | (name, j) :: rest => (Text.quoted name ++ ": " ++ inspect j) :: inspectMembers rest

end

/-- The value as text; a string stands for itself. -/
def display : Json → String
  | str s => s
  | j => inspect j

end Json

end Letterpress
