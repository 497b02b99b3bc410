import Diorama.Json.Reader
import Diorama.Yaml.Dialect

/-! Reading YAML, as far as it is JSON text. YAML has rules for where things stand that JSON text may break: a
name and its colon share a line and are close together, and no tab stands where a line may be indented. -/

namespace Diorama.Yaml

def isShown (c : Char) : Bool :=
  c = '\t' || c = '\n' || c = '\r' || (0x20 ≤ c.toNat && c.toNat ≤ 0x7E) || c = '\u0085'
    || (0xA0 ≤ c.toNat && c.toNat ≤ 0xFFFD) || 0x10000 ≤ c.toNat

def marginsFit (text : List Char) : Bool :=
  let before := text.takeWhile Token.isBlank
  let behind := (text.reverse.takeWhile Token.isBlank).reverse
  let lines := behind.dropWhile fun c => c != '\n' && c != '\r'
  !before.contains '\t' && !lines.contains '\t'

/-- Where a scan for names stands. `room` is the number of characters that may still come up to and
including the colon of a name. -/
inductive NameScan where
  | outside
  | inside (room : Nat)
  | escaped (room : Nat)
  | behind (room : Nat)

namespace NameScan

def left (room : Nat) (c : Char) : Nat :=
  if c = '\n' || c = '\r' || isBreak c then 0 else room - 1

def step : NameScan → Char → Option NameScan
  | .outside, c => some (if c = '"' then .inside 1024 else .outside)
  | .inside room, c =>
    some (if c = '"' then .behind (room - 1)
      else if c = '\\' then .escaped (room - 1)
      else .inside (left room c))
  | .escaped room, c => some (.inside (left room c))
  | .behind room, c =>
    if c = ':' then if room = 0 then none else some .outside
    else some (if Token.isBlank c then .behind (left room c) else .outside)

end NameScan

def namesFit (text : List Char) : Bool := (text.foldlM NameScan.step .outside).isSome

def value? (text : String) : Option Value :=
  let text := match text.toList with
    | '\uFEFF' :: rest => rest
    | text => text
  if text.all isShown && marginsFit text && namesFit text then
    Value.spelled? dialect (.ofList text)
  else none

end Diorama.Yaml
