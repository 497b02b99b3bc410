import Diorama.Json.Dialect

namespace Diorama.Json

inductive Frame where
  | array (items : List Json)
  | object (members : List (Option String × Json)) (name : Option String)

inductive Cursor where
  | atValue (frames : List Frame)
  | firstItem (frames : List Frame)
  | firstName (frames : List Frame)
  | nextName (members : List (Option String × Json)) (frames : List Frame)
  | colon (members : List (Option String × Json)) (name : Option String) (frames : List Frame)
  | after (value : Json) (frames : List Frame)

def nested (d : Dialect) (frames : List Frame) (container : Json) : Json :=
  if frames.length < d.depth then container else .unreadable

def ofMembers (members : List (Option String × Json)) : Json :=
  match members.mapM fun (name, value) => name.map (·, value) with
  | some members => .object members
  | none => .unreadable

namespace Cursor

def start (d : Dialect) (frames : List Frame) : Token → Option Cursor
  | .null => some (.after .null frames)
  | .bool b => some (.after (.bool b) frames)
  | .number text => some (.after (d.number text) frames)
  | .string pieces => some (.after ((d.string pieces).elim .unreadable .string) frames)
  | .openArray => some (.firstItem frames)
  | .openObject => some (.firstName frames)
  | _ => none

def step (d : Dialect) : Cursor → Token → Option Cursor
  | .atValue frames, token => start d frames token
  | .firstItem frames, .closeArray => some (.after (nested d frames (.array [])) frames)
  | .firstItem frames, token => start d (.array [] :: frames) token
  | .firstName frames, .closeObject => some (.after (nested d frames (.object [])) frames)
  | .firstName frames, .string name => some (.colon [] (d.string name) frames)
  | .nextName members frames, .string name => some (.colon members (d.string name) frames)
  | .colon members name frames, .colon => some (.atValue (.object members name :: frames))
  | .after value (.array items :: frames), .comma =>
    some (.atValue (.array (value :: items) :: frames))
  | .after value (.array items :: frames), .closeArray =>
    some (.after (nested d frames (.array (value :: items).reverse)) frames)
  | .after value (.object members name :: frames), .comma =>
    some (.nextName ((name, value) :: members) frames)
  | .after value (.object members name :: frames), .closeObject =>
    some (.after (nested d frames (ofMembers ((name, value) :: members).reverse)) frames)
  | _, _ => none

end Cursor

def ofTokens? (d : Dialect) (tokens : List Token) : Option Json := do
  match ← tokens.foldlM (Cursor.step d) (.atValue []) with
  | .after value [] => some value
  | _ => none

def spelled? (d : Dialect) (text : String) : Option Json := do ofTokens? d (← Token.lex text.toList)

def ofText? (text : String) : Option Json := spelled? .json text

end Diorama.Json

namespace Diorama

def Value.spelled? (d : Dialect) (text : String) : Option Value := do
  let document ← Json.spelled? d text
  if document.isReadable then some document.value else none

def Value.ofText? (text : String) : Option Value := Value.spelled? .json text

end Diorama
