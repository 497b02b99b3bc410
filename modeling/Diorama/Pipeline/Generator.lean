import Diorama.Json.Reader
import Diorama.Pipeline.Draft
import Diorama.Pipeline.Design
import Diorama.Pipeline.Stage
import Diorama.Pipeline.Verdict
import Diorama.Text.Blank

namespace Diorama

structure StageRequest where
  stage : Stage
  prompt : String
  instruction : String
  context : String
  iteration : UInt32
deriving DecidableEq

inductive GenerationError where
  | unavailable (reason : String)
  | malformed (reason : String)
  | refused (reason : String)
deriving DecidableEq

namespace GenerationError

def message : GenerationError → String
  | .unavailable reason => "generator unavailable: " ++ reason
  | .malformed reason => "malformed response: " ++ reason
  | .refused reason => "request refused: " ++ reason

end GenerationError

/-- A generator answers the last of the requests made so far, in the light of all of them. -/
abbrev Generator := List StageRequest → Except GenerationError Value

namespace Answer

def fence : List Char := "```".toList

def fenced? (mark text : List Char) : Option (List Char) :=
  (Text.after? mark text).map (Text.before fence)

def body (text : List Char) : List Char :=
  ((fenced? (fence ++ "json".toList) text).or (fenced? fence text)).getD text

def value? (text : String) : Option Value :=
  Value.ofText? (.ofList (Text.trimChars (body text.toList)))

end Answer

inductive StageOutput where
  | vision (design : Vision)
  | systems (design : SystemsDesign)
  | technical (design : TechnicalDesign)
  | synthesis (draft : WorldDraft)
  | review (verdict : Verdict)

def decodeAnswer {α : Type} [JsonForm α] (v : Value) : Except WorldError α :=
  match v.json with
  | .object members =>
    match ofJson? (.object members) with
    | some a => .ok a
    | none => .error .malformed
  | _ => .error (.notAnObject v)

namespace StageOutput

def decode (stage : Stage) (v : Value) : Except WorldError StageOutput :=
  match stage with
  | .vision => .vision <$> decodeAnswer v
  | .systems => .systems <$> decodeAnswer v
  | .technical => .technical <$> decodeAnswer v
  | .synthesis => .synthesis <$> decodeAnswer v
  | .review => .review <$> decodeAnswer v

def stage : StageOutput → Stage
  | .vision _ => .vision
  | .systems _ => .systems
  | .technical _ => .technical
  | .synthesis _ => .synthesis
  | .review _ => .review

def json : StageOutput → Json
  | .vision design => toJson design
  | .systems design => toJson design
  | .technical design => toJson design
  | .synthesis draft => toJson draft
  | .review verdict => toJson verdict

end StageOutput

end Diorama
