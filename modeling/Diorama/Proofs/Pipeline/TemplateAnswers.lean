import Diorama.Pipeline.Template
import Diorama.Proofs.Pipeline.SteadyForms

namespace Diorama.Template

open Json

namespace Cues

structure Known (c : Cues) : Prop where
  mood : c.mood = "serene" ∨ c.mood = "ominous"
  weather : ∃ w : Weather, c.weather = Named.name w
  hour : c.hour = 14 ∨ c.hour = 22

lemma known_ofPrompt (prompt : String) : (ofPrompt prompt).Known := by
  refine ⟨?_, ?_, ?_⟩
  · dsimp only [ofPrompt]
    split
    · exact .inr rfl
    · exact .inl rfl
  · dsimp only [ofPrompt]
    split
    · exact ⟨.stormy, rfl⟩
    split
    · exact ⟨.rainy, rfl⟩
    split
    · exact ⟨.snowy, rfl⟩
    split
    · exact ⟨.foggy, rfl⟩
    · exact ⟨.clear, rfl⟩
  · dsimp only [ofPrompt]
    split
    · exact .inr rfl
    · exact .inl rfl

end Cues

lemma definite_numbers {xs : List Float} (h : ∀ x ∈ xs, x.isFinite = true) : (numbers xs).Definite :=
  definite_array_iff.mpr (List.forall_mem_map.mpr fun x hx => definite_real_iff.mpr (h x hx))

def Cues.design (c : Cues) : Vision where
  artStyle := c.artStyle
  mood := c.mood
  lighting := {
    kind := if c.isNight then "moonlight" else "natural"
    timeOfDay := if c.isNight then "night" else "afternoon" }
  effects := if c.weather == "clear" then [] else [c.weather]

lemma decode_vision (places : List Vec3) (prompt : String) :
    decodeAnswer (answerAt places .vision prompt) = .ok (Cues.ofPrompt prompt).design := by
  generalize hc : Cues.ofPrompt prompt = c
  have hdefinite : (vision c).Definite := by
    simp only [vision]
    split <;> simp
  have hread : ofJson? (vision c) = some c.design := by
    simp only [vision, Cues.design]
    cases c.weather == "clear" <;> rfl
  rw [answerAt, hc]
  exact (decodeAnswer_value_iff ⟨_, rfl⟩ hdefinite).mpr hread

lemma decode_systems :
    ∃ d : SystemsDesign, ∀ places prompt, decodeAnswer (answerAt places .systems prompt) = .ok d := by
  have hdefinite : systems.Definite := by
    have hgravity : (numbers [0, -9.81, 0]).Definite := definite_numbers (by decide)
    simp [systems, hgravity]
  obtain ⟨d, hd⟩ := Option.isSome_iff_exists.mp (rfl : (ofJson? systems : Option SystemsDesign).isSome = true)
  exact ⟨d, fun _ _ => (decodeAnswer_value_iff ⟨_, rfl⟩ hdefinite).mpr hd⟩

lemma decode_technical :
    ∃ d : TechnicalDesign, ∀ places prompt, decodeAnswer (answerAt places .technical prompt) = .ok d := by
  have hdefinite : technical.Definite := by
    have hfps : inRange 60 = true := by decide
    simp [technical, hfps]
  obtain ⟨d, hd⟩ := Option.isSome_iff_exists.mp (rfl : (ofJson? technical : Option TechnicalDesign).isSome = true)
  exact ⟨d, fun _ _ => (decodeAnswer_value_iff ⟨_, rfl⟩ hdefinite).mpr hd⟩

def verdict : Verdict where
  approved := true
  score := some (Scalar.ofInt 80)
  completeness := some "landmarks, spawn point and ground are present"

lemma decode_review (places : List Vec3) (prompt : String) :
    decodeAnswer (answerAt places .review prompt) = .ok verdict := by
  have hdefinite : review.Definite := by
    have hscore : inRange 80 = true := by decide
    simp [review, hscore]
  have hread : ofJson? review = some verdict := rfl
  exact (decodeAnswer_value_iff ⟨_, rfl⟩ hdefinite).mpr hread

def groundDraft : DraftEntity where
  id := some "ground"
  name := some "Ground"
  kind := some .terrain
  transform := {
    position := some (.array ⟨Scalar.narrow 0, Scalar.narrow (-0.5), Scalar.narrow 0⟩)
    scale := some (.array ⟨Scalar.narrow 100, Scalar.narrow 1, Scalar.narrow 100⟩) }
  material := some { name := some "Ground", roughness := some (Scalar.narrow 0.9) }
  tags := ["ground"]

def spawnDraft : DraftEntity where
  id := some "spawn"
  name := some "Spawn Point"
  kind := some .spawnPoint
  transform := {
    position := some (.array ⟨Scalar.narrow 0, Scalar.narrow 1, Scalar.narrow 0⟩)
    scale := some (.array ⟨Scalar.narrow 0, Scalar.narrow 0, Scalar.narrow 0⟩) }

def landmarkDraft (number : Nat) (place : Vec3) : DraftEntity where
  id := some s!"landmark-{number}"
  name := some s!"Landmark {number}"
  kind := some .prop
  transform := {
    position := some (.array place)
    scale := some (.array ⟨Scalar.narrow 1, Scalar.narrow 1, Scalar.narrow 1⟩) }
  tags := ["landmark"]

def explorationDraft : DraftMechanism where
  id := some "exploration"
  name := some "Exploration"
  description := "Chime when the player reaches a landmark"
  interactions := [{
    trigger := .proximity
    action := .playSound
    target := some "landmark-1"
    parameters := .ofList [("radius", (Json.real 3).value)] }]

def environmentDraft (c : Cues) : DraftEnvironment where
  weather := Named.ofName? c.weather
  timeOfDay := some { hour := some (.ofNat c.hour), minute := some 0 }
  fogEnabled := some (c.weather == "foggy")

def draft (prompt : String) (c : Cues) (places : List Vec3) : WorldDraft where
  metadata := { title := some (title prompt), tags := [c.mood, c.artStyle] }
  environment := environmentDraft c
  entities := groundDraft :: spawnDraft :: places.zipIdx.map fun (place, index) => landmarkDraft (index + 1) place
  mechanisms := if places.isEmpty then [] else [explorationDraft]

lemma ofJson?_groundEntity : ofJson? groundEntity = some groundDraft := rfl

lemma ofJson?_spawnEntity : ofJson? spawnEntity = some spawnDraft := rfl

variable {c : Cues}

lemma ofJson?_time (hc : c.Known) : ofJson? (.object [("hour", .integer c.hour), ("minute", .integer 0)]) =
    some ({ hour := some (.ofNat c.hour), minute := some 0 } : DraftTimeOfDay) := by
  obtain h | h := hc.hour
  · rw [h]
    rfl
  · rw [h]
    rfl

lemma ofJson?_environment (hc : c.Known) : ofJson? (.object [
      ("weather", .string c.weather),
      ("time_of_day", .object [("hour", .integer c.hour), ("minute", .integer 0)]),
      ("fog_enabled", .bool (c.weather == "foggy"))]) = some (environmentDraft c) := by
  obtain ⟨w, hw⟩ := hc.weather
  have hweather : (ofJson? (.string c.weather) : Option (Option Weather)) = some (Named.ofName? c.weather) := by
    rw [hw, LawfulNamed.ofName?_name]
    exact ofJson?_of_renderedAs rfl
  have htime : (ofJson? (.object [("hour", .integer c.hour), ("minute", .integer 0)]) :
      Option (Option DraftTimeOfDay)) = some (environmentDraft c).timeOfDay :=
    congrArg (Option.map some) (ofJson?_time hc)
  have hfog : (ofJson? (.bool (c.weather == "foggy")) : Option (Option Bool)) =
      some (some (c.weather == "foggy")) := rfl
  change DraftEnvironment.form.readMembers? _ = _
  simp [RecordForm.readMembers?, DraftEnvironment.form, Field.readMember?, Field.isNamed, Field.optional,
    Field.required, RecordForm.readOthers?, hweather, htime, hfog, environmentDraft]

lemma ofJson?_entities (places : List Vec3) : (groundEntity :: spawnEntity ::
    places.zipIdx.map fun (place, index) => landmark (index + 1) place).mapM ofJson? =
      some (draft prompt c places).entities := by
  have hlandmarks : (places.zipIdx.map fun (place, index) => landmark (index + 1) place).mapM ofJson? =
      some (places.zipIdx.map fun (place, index) => landmarkDraft (index + 1) place) := by
    rw [mapM_eq_some_iff, List.forall₂_map_left_iff, List.forall₂_map_right_iff, List.forall₂_same]
    exact fun _ _ => rfl
  rw [List.mapM_cons, List.mapM_cons, ofJson?_groundEntity, ofJson?_spawnEntity, hlandmarks]
  rfl

lemma ofJson?_parts {metadata environment entities : Json} {rest : List (String × Json)} {d : WorldDraft}
    (hmetadata : ofJson? metadata = some d.metadata) (henvironment : ofJson? environment = some d.environment)
    (hentities : ofJson? entities = some d.entities) (hlights : d.lights = [])
    (hrest : rest = [] ∧ d.mechanisms = [] ∨
      ∃ systems, rest = [("systems", systems)] ∧ ofJson? systems = some d.mechanisms) :
    ofJson? (.object ([("metadata", metadata), ("environment", environment), ("entities", entities)] ++ rest)) =
      some d := by
  obtain ⟨info, surroundings, residents, lights, mechanisms⟩ := d
  subst hlights
  change WorldDraft.form.readMembers? _ = _
  obtain ⟨rfl, rfl⟩ | ⟨systems, rfl, hsystems⟩ := hrest
  · simp [RecordForm.readMembers?, WorldDraft.form, Field.readMember?, Field.isNamed, Field.optional,
      Field.required, RecordForm.readOthers?, hmetadata, henvironment, hentities]
  · simp [RecordForm.readMembers?, WorldDraft.form, Field.readMember?, Field.isNamed, Field.optional,
      Field.required, RecordForm.readOthers?, hmetadata, henvironment, hentities, hsystems]

lemma ofJson?_synthesis (prompt : String) (hc : c.Known) (places : List Vec3) :
    ofJson? (synthesis prompt c places) = some (draft prompt c places) := by
  refine ofJson?_parts rfl (ofJson?_environment hc) (ofJson?_entities places) rfl ?_
  cases places with
  | nil => exact .inl ⟨rfl, rfl⟩
  | cons place places => exact .inr ⟨_, rfl, rfl⟩

lemma definite_place {place : Vec3} (h : place.isFinite = true) : (toJson place).Definite := by
  obtain ⟨⟨hx, hy⟩, hz⟩ : (place.x.isFinite = true ∧ place.y.isFinite = true) ∧ place.z.isFinite = true := by
    simpa [Vec3.isFinite] using h
  refine definite_array_iff.mpr ?_
  simp [Vec3.toList, toJson, hx, hy, hz]

lemma definite_landmark (number : Nat) {place : Vec3} (h : place.isFinite = true) :
    (landmark number place).Definite := by
  have hplace := definite_place h
  have hscale : (numbers [1, 1, 1]).Definite := definite_numbers (by decide)
  simp [landmark, hplace, hscale]

lemma definite_groundEntity : groundEntity.Definite := by
  have hposition : (numbers [0, -0.5, 0]).Definite := definite_numbers (by decide)
  have hscale : (numbers [100, 1, 100]).Definite := definite_numbers (by decide)
  have hroughness : (0.9 : Float).isFinite = true := by decide
  simp [groundEntity, hposition, hscale, hroughness]

lemma definite_spawnEntity : spawnEntity.Definite := by
  have hposition : (numbers [0, 1, 0]).Definite := definite_numbers (by decide)
  have hscale : (numbers [0, 0, 0]).Definite := definite_numbers (by decide)
  simp [spawnEntity, hposition, hscale]

lemma definite_explorationSystem : explorationSystem.Definite := by
  have hradius : (3 : Float).isFinite = true := by decide
  simp [explorationSystem, hradius]

lemma definite_synthesis (prompt : String) (hc : c.Known) {places : List Vec3}
    (hp : ∀ place ∈ places, place.isFinite = true) : (synthesis prompt c places).Definite := by
  have hlandmarks : ∀ item ∈ places.zipIdx.map (fun (place, index) => landmark (index + 1) place), item.Definite := by
    intro item hitem
    obtain ⟨⟨place, index⟩, hm, rfl⟩ := List.mem_map.mp hitem
    exact definite_landmark (index + 1) (hp place (List.fst_mem_of_mem_zipIdx hm))
  have hentities : (Json.array (groundEntity :: spawnEntity ::
      places.zipIdx.map fun (place, index) => landmark (index + 1) place)).Definite :=
    definite_array_iff.mpr (List.forall_mem_cons.mpr ⟨definite_groundEntity,
      List.forall_mem_cons.mpr ⟨definite_spawnEntity, hlandmarks⟩⟩)
  have htime : (Json.object [("hour", .integer c.hour), ("minute", .integer 0)]).Definite := by
    have hminute : inRange 0 = true := by decide
    obtain h | h := hc.hour
    · have hhour : inRange 14 = true := by decide
      simp [h, hhour, hminute]
    · have hhour : inRange 22 = true := by decide
      simp [h, hhour, hminute]
  have hrest : ∀ m ∈ (if places.isEmpty then [] else [("systems", Json.array [explorationSystem])]), m.2.Definite := by
    split <;> simp [definite_explorationSystem]
  refine definite_object_iff.mpr ⟨?_, List.forall_mem_append.mpr ⟨?_, hrest⟩⟩
  · split <;> simp
  · simp only [List.forall_mem_cons, List.not_mem_nil, false_implies, implies_true, and_true]
    exact ⟨by simp, by simp [htime], hentities⟩

theorem decode_synthesis (prompt : String) (hp : ∀ place ∈ places, place.isFinite = true) :
    decodeAnswer (answerAt places .synthesis prompt) = .ok (draft prompt (Cues.ofPrompt prompt) places) := by
  have hc := Cues.known_ofPrompt prompt
  exact (decodeAnswer_value_iff ⟨_, rfl⟩ (definite_synthesis prompt hc hp)).mpr (ofJson?_synthesis prompt hc places)

end Diorama.Template
