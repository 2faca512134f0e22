import Mathlib
import StationFinder.Proofs.Json.Quoted
import StationFinder.Relay.Receiver

/-!
# Schemas and references

A message is classified by its raw text, while its schema reference is a member of its document. The two agree
(`Announcement.follows_reference`) as long as the reference is spelled plainly and no other string of the document
reads like a reference in the raw text. Both conditions are needed (`Announcement.misread_references`).
-/

namespace StationFinder

namespace Text

theorem afterFirst_suffix {mark cs rest : List Char} (h : afterFirst mark cs = some rest) : rest <:+ cs := by
  induction cs with
  | nil =>
    simp only [afterFirst, Option.ite_none_right_eq_some, Option.some.injEq] at h
    rw [← h.2]
  | cons c cs ih =>
    rw [afterFirst] at h
    split at h
    · cases h
      exact List.drop_suffix _ _
    · exact (ih h).trans (List.suffix_cons c cs)

/-- What follows a mark follows the first mark. -/
theorem exists_afterFirst {mark : List Char} (hmark : mark ≠ []) (front back : List Char) :
    ∃ rest, afterFirst mark (front ++ (mark ++ back)) = some rest ∧ back <:+ rest := by
  induction front with
  | nil =>
    obtain ⟨c, cs, rfl⟩ := List.exists_cons_of_ne_nil hmark
    refine ⟨back, ?_, List.suffix_rfl⟩
    rw [List.nil_append, List.cons_append, afterFirst, ← List.cons_append, if_pos (by simp), List.drop_left]
  | cons c front ih =>
    rw [List.cons_append, afterFirst]
    split
    · refine ⟨_, rfl, ?_⟩
      refine List.suffix_of_suffix_length_le ⟨c :: front ++ mark, by simp⟩ (List.drop_suffix _ _) ?_
      simp only [List.length_drop, List.length_cons, List.length_append]
      omega
    · exact ih

end Text

namespace Schema

theorem isWord_address (schema : Schema) : Json.IsWord schema.address.toList := by
  have hplain : schema.address.toList.all (fun c => c ≠ '"' && c ≠ '\\') = true := by cases schema <;> decide +kernel
  constructor
  · cases schema with
    | shipyard => exact ⟨'h', _, rfl, rfl⟩
    | outfitting => exact ⟨'h', _, rfl, rfl⟩
  · intro c hc
    simpa using List.all_eq_true.1 hplain c hc

/-- A payload is a record with exactly one schema reference, which is a text. -/
structure RefersTo (payload : String) (document : Json.Value) (reference : String) : Prop where
  parsed : Json.parse payload = some document
  unique : ∃ members, document = .record members ∧
    members.filter (fun member => member.1 = some "$schemaRef") = [(some "$schemaRef", .text (some reference))]

/-- The only schema reference of a payload, if it has just one and that is a text. -/
def reference? (payload : String) : Option String :=
  match Json.parse payload with
  | some (.record members) =>
    match members.filter fun member => member.1 = some "$schemaRef" with
    | [(_, .text reference)] => reference
    | _ => none
  | _ => none

theorem exists_refersTo {payload reference : String} (h : reference? payload = some reference) :
    ∃ document, RefersTo payload document reference := by
  unfold reference? at h
  split at h
  · next members hparsed =>
    split at h
    · next name reference' hfilter =>
      subst h
      have hname : name = some "$schemaRef" := by
        have hmem := List.mem_filter.1 (hfilter ▸ List.mem_singleton_self (name, Json.Value.text (some reference)))
        exact of_decide_eq_true hmem.2
      exact ⟨_, hparsed, members, rfl, hname ▸ hfilter⟩
    · cases h
  · cases h

/-- A schema reference is spelled plainly somewhere in a payload: the mark, blanks if any and the address, in quotes
and without escapes. -/
def SpellsOut (payload reference : String) : Prop :=
  ∃ front blanks back : List Char, Json.skipBlanks blanks = [] ∧
    payload.toList = front ++ (mark.toList ++ (blanks ++ ('"' :: reference.toList ++ ['"'] ++ back)))

/-- Where no string of the document reads like the address, it stands nowhere in the text. -/
theorem isNamedIn_eq_false {payload : String} {document : Json.Value} (h : Json.parse payload = some document)
    {schema : Schema} (hquotes : ¬ document.Quotes schema.address.toList) {rest : List Char}
    (hrest : rest <:+ payload.toList) : schema.isNamedIn rest = false := by
  rw [← Bool.not_eq_true]
  intro hnamed
  have hin := (Text.occursIn_iff.1 hnamed).trans hrest.isInfix
  exact hquotes (Json.quotes_of_parse h schema.isWord_address hin)

/-- Where a reference is spelled plainly, its address stands behind the first mark. -/
theorem exists_isNamedIn {payload : String} {schema : Schema} (h : SpellsOut payload schema.address) :
    ∃ rest, Text.afterFirst mark.toList payload.toList = some rest ∧ schema.isNamedIn rest = true := by
  obtain ⟨front, blanks, back, -, hpayload⟩ := h
  have hmark : mark.toList ≠ [] := by decide
  obtain ⟨rest, hrest, hback⟩ := Text.exists_afterFirst hmark front
    (blanks ++ ('"' :: schema.address.toList ++ ['"'] ++ back))
  refine ⟨rest, hpayload ▸ hrest, Text.occursIn_iff.2 ?_⟩
  exact List.IsInfix.trans ⟨blanks, back, by simp⟩ hback.isInfix

theorem classify_eq_none {payload : String} {document : Json.Value} (h : Json.parse payload = some document)
    (hquotes : ∀ schema : Schema, ¬ document.Quotes schema.address.toList) : classify payload = none := by
  cases hrest : Text.afterFirst mark.toList payload.toList with
  | none => simp [classify, hrest]
  | some rest =>
    have hnamed (schema : Schema) := isNamedIn_eq_false h (hquotes schema) (Text.afterFirst_suffix hrest)
    simp [classify, hrest, hnamed]

theorem classify_eq_shipyard {payload : String} (h : SpellsOut payload shipyard.address) :
    classify payload = some shipyard := by
  obtain ⟨rest, hrest, hnamed⟩ := exists_isNamedIn h
  simp [classify, hrest, hnamed]

theorem classify_eq_outfitting {payload : String} {document : Json.Value} (h : Json.parse payload = some document)
    (hspelled : SpellsOut payload outfitting.address) (hquotes : ¬ document.Quotes shipyard.address.toList) :
    classify payload = some outfitting := by
  obtain ⟨rest, hrest, hnamed⟩ := exists_isNamedIn hspelled
  simp [classify, hrest, hnamed, isNamedIn_eq_false h hquotes (Text.afterFirst_suffix hrest)]

end Schema

namespace Announcement

/-- The schema of the message that an announcement was made from, unless that was discarded. -/
def schema? : Announcement → Option Schema
  | .ships .. => some .shipyard
  | .modules .. => some .outfitting
  | .discarded => none

theorem schema?_of_ofPayload {catalog : Catalog} {payload : String} {a : Announcement}
    (h : ofPayload catalog payload = .ok a) : a.schema? = Schema.classify payload := by
  unfold ofPayload at h
  split at h
  · next hclass =>
    cases h
    exact hclass.symm
  · next hclass =>
    cases hread : readPayload (readMessage "ships" Json.Value.asText) payload with
    | error fault =>
      rw [hread] at h
      cases h
    | ok message =>
      rw [hread] at h
      cases h
      exact hclass.symm
  · next hclass =>
    cases hread : readPayload (readMessage "modules" ListedModule.ofJson?) payload with
    | error fault =>
      rw [hread] at h
      cases h
    | ok message =>
      rw [hread] at h
      cases h
      exact hclass.symm

theorem ofPayload_eq_discarded {payload : String} (h : Schema.classify payload = none) (catalog : Catalog) :
    ofPayload catalog payload = .ok .discarded := by
  rw [ofPayload, h]
  rfl

/-- **A message is taken for what its schema reference says.** It is discarded, with no effect but on two counts, if
no string of the document reads like one of the addresses, the reference included. A plainly spelled reference to the
ships makes an announcement of ships, if any; one to the modules makes an announcement of modules, if any, unless
some string of the document reads like the other address. -/
theorem follows_reference {payload reference : String} {document : Json.Value}
    (h : Schema.RefersTo payload document reference) :
    ((∀ schema : Schema, ¬ document.Quotes schema.address.toList) →
      (∀ catalog, ofPayload catalog payload = .ok .discarded) ∧
      ∀ (r : Receiver) (t : Tuning) (now : Nat) (frame : ByteArray),
        Frame.inflate frame t.feed.maxFrameBytes = .ok payload →
        r.handleFrame t now frame = (.ok (), { r with
          traffic := { r.traffic with
            framesReceived := r.traffic.framesReceived + 1
            discarded := r.traffic.discarded + 1 } })) ∧
    (reference = Schema.shipyard.address → Schema.SpellsOut payload reference →
      ∀ catalog a, ofPayload catalog payload = .ok a → a.schema? = some .shipyard) ∧
    (reference = Schema.outfitting.address → Schema.SpellsOut payload reference →
      ¬ document.Quotes Schema.shipyard.address.toList →
      ∀ catalog a, ofPayload catalog payload = .ok a → a.schema? = some .outfitting) := by
  refine ⟨fun hquotes => ?_, ?_, ?_⟩
  · have hdiscarded := ofPayload_eq_discarded (Schema.classify_eq_none h.parsed hquotes)
    refine ⟨hdiscarded, fun r t now frame hframe => ?_⟩
    have hannounced : Frame.announcement t.catalog t.feed.maxFrameBytes frame = .ok .discarded := by
      rw [Frame.announcement, hframe]
      exact hdiscarded t.catalog
    rw [Receiver.handleFrame, hannounced]
    rfl
  · rintro rfl hspelled catalog a ha
    rw [schema?_of_ofPayload ha, Schema.classify_eq_shipyard hspelled]
  · rintro rfl hspelled hquotes catalog a ha
    rw [schema?_of_ofPayload ha, Schema.classify_eq_outfitting h.parsed hspelled hquotes]

/-- A message about commodities. -/
def aboutCommodities : String := "\x7b\"$schemaRef\":\"http://schemas.elite-markets.net/eddn/commodity/2\"\x7d"

/-- The message about commodities as a stream that does not compress it. -/
def commoditiesFrame : ByteArray :=
  ⟨#[120, 1, 1, 66, 0, 189, 255, 123, 34, 36, 115, 99, 104, 101, 109, 97, 82, 101, 102, 34, 58, 34, 104, 116, 116,
    112, 58, 47, 47, 115, 99, 104, 101, 109, 97, 115, 46, 101, 108, 105, 116, 101, 45, 109, 97, 114, 107, 101, 116,
    115, 46, 110, 101, 116, 47, 101, 100, 100, 110, 47, 99, 111, 109, 109, 111, 100, 105, 116, 121, 47, 50, 34, 125,
    12, 136, 23, 178]⟩

theorem inflate_commoditiesFrame : Frame.inflate commoditiesFrame 524288 = .ok aboutCommodities := by
  have h : (match Frame.inflate commoditiesFrame 524288 with
      | .ok text => decide (text = aboutCommodities)
      | .error _ => false) = true := by decide +kernel
  split at h
  · next text heq =>
    rw [heq, of_decide_eq_true h]
  · cases h

/-- A message about ships, with a blank before the address. -/
def aboutShips : String :=
  "\x7b\"$schemaRef\": \"http://schemas.elite-markets.net/eddn/shipyard/1\",\"message\":[\"Sol\",\"Galileo\"]\x7d"

/-- A message about modules. -/
def aboutModules : String :=
  "\x7b\"$schemaRef\":\"http://schemas.elite-markets.net/eddn/outfitting/1\",\"message\":[\"Sol\",\"Galileo\"]\x7d"

theorem follows_reference_of_each :
    (∀ catalog, ofPayload catalog aboutCommodities = .ok .discarded) ∧
    (∀ (r : Receiver) (catalog : Catalog) (now : Nat), r.handleFrame ⟨catalog, {}⟩ now commoditiesFrame =
      (.ok (), { r with
        traffic := { r.traffic with
          framesReceived := r.traffic.framesReceived + 1
          discarded := r.traffic.discarded + 1 } })) ∧
    (∀ catalog a, ofPayload catalog aboutShips = .ok a → a.schema? = some .shipyard) ∧
    ∀ catalog a, ofPayload catalog aboutModules = .ok a → a.schema? = some .outfitting := by
  have hcommodities : Json.parse aboutCommodities = some (.record
      [(some "$schemaRef", .text (some "http://schemas.elite-markets.net/eddn/commodity/2"))]) := by
    simp only [Json.parse, aboutCommodities, String.reduceToList]
    cbv
  obtain ⟨ships, hships⟩ := Schema.exists_refersTo (by decide +kernel :
    Schema.reference? aboutShips = some Schema.shipyard.address)
  have hmodules : Json.parse aboutModules = some (.record
      [(some "$schemaRef", .text (some "http://schemas.elite-markets.net/eddn/outfitting/1")),
        (some "message", .list [.text (some "Sol"), .text (some "Galileo")])]) := by
    simp only [Json.parse, aboutModules, String.reduceToList]
    cbv
  obtain ⟨hdiscarded, hhandled⟩ := (follows_reference ⟨hcommodities, _, rfl, rfl⟩).1 (by
    rintro schema ⟨content, hstring, hcloses⟩
    simp only [Json.Value.hasString_record_iff, Json.Value.hasString_text_iff, List.mem_singleton,
      exists_eq_left] at hstring
    rcases hstring with rfl | rfl <;> cases schema <;>
      exact absurd (Json.closesWith_some.1 hcloses) (by decide +kernel))
  refine ⟨hdiscarded, fun r catalog now => hhandled r ⟨catalog, {}⟩ now commoditiesFrame inflate_commoditiesFrame,
    (follows_reference hships).2.1 rfl ?_, (follows_reference ⟨hmodules, _, rfl, rfl⟩).2.2 rfl ?_ ?_⟩
  · exact ⟨['\x7b'], [' '], ",\"message\":[\"Sol\",\"Galileo\"]\x7d".toList, rfl, by decide +kernel⟩
  · exact ⟨['\x7b'], [], ",\"message\":[\"Sol\",\"Galileo\"]\x7d".toList, rfl, by decide +kernel⟩
  · rintro ⟨content, hstring, hcloses⟩
    simp only [Json.Value.hasString_record_iff, Json.Value.hasString_list_iff, Json.Value.hasString_text_iff,
      List.mem_cons, List.not_mem_nil, or_false, exists_eq_or_imp, exists_eq_left] at hstring
    rcases hstring with (rfl | rfl) | rfl | rfl | rfl <;>
      exact absurd (Json.closesWith_some.1 hcloses) (by decide +kernel)

/-- A message about commodities that mentions the schema of ships. -/
def mentioningShips : String :=
  "\x7b\"$schemaRef\":\"http://schemas.elite-markets.net/eddn/commodity/2\",\"see\":\"http://schemas.elite-markets.net/eddn/shipyard/1\",\"message\":\x7b\"systemName\":\"Sol\",\"stationName\":\"Galileo\"\x7d\x7d"

/-- A message about ships with a blank before the colon behind the name of the reference. -/
def blankBeforeColon : String :=
  "\x7b\"$schemaRef\" : \"http://schemas.elite-markets.net/eddn/shipyard/1\",\"message\":\x7b\"systemName\":\"Sol\",\"stationName\":\"Galileo\"\x7d\x7d"

/-- An address elsewhere in a document is taken for the reference; a blank before the colon hides the reference. -/
theorem misread_references :
    (∃ document, Schema.RefersTo mentioningShips document "http://schemas.elite-markets.net/eddn/commodity/2" ∧
      (∀ schema : Schema, "http://schemas.elite-markets.net/eddn/commodity/2" ≠ schema.address) ∧
      ∀ catalog, ofPayload catalog mentioningShips = .ok (.ships "Sol" "Galileo" (.ofList []) [])) ∧
    (∃ document, Schema.RefersTo blankBeforeColon document Schema.shipyard.address ∧
      ∀ catalog, ofPayload catalog blankBeforeColon = .ok .discarded) := by
  obtain ⟨mentioning, hmentioning⟩ := Schema.exists_refersTo (by decide +kernel :
    Schema.reference? mentioningShips = some "http://schemas.elite-markets.net/eddn/commodity/2")
  obtain ⟨blank, hblank⟩ := Schema.exists_refersTo (by decide +kernel :
    Schema.reference? blankBeforeColon = some Schema.shipyard.address)
  refine ⟨⟨mentioning, hmentioning, fun schema => by cases schema <;> decide, fun catalog => ?_⟩,
    blank, hblank, ofPayload_eq_discarded (by decide +kernel)⟩
  have hclass : Schema.classify mentioningShips = some .shipyard := by decide +kernel
  have hread : (readPayload (readMessage "ships" Json.Value.asText) mentioningShips).toOption =
      some ("Sol", "Galileo", []) := by decide +kernel
  cases hmessage : readPayload (readMessage "ships" Json.Value.asText) mentioningShips with
  | error fault => simp [hmessage, Except.toOption] at hread
  | ok message =>
    rw [hmessage] at hread
    cases hread
    unfold ofPayload
    rw [hclass]
    dsimp only
    rw [hmessage]
    rfl

end Announcement

end StationFinder
