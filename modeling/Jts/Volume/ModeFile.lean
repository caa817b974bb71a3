import Jts.Shared.PythonJson
import Jts.Volume.Curve

set_option autoImplicit false

namespace Jts.Volume.ModeFile

open Shared.PythonJson

def value : Source → String
  | .airplay => "airplay"
  | .spotify => "spotify"
  | .bluetooth => "bluetooth"
  | .usbsink => "usbsink"
  | .idle => "idle"

def musicSources : List Source := [.spotify, .airplay, .bluetooth, .usbsink]

-- `Source(label)`
def sourceOf (label : String) : Except PyError Source :=
  match [Source.airplay, .spotify, .bluetooth, .usbsink, .idle].find? fun source => value source = label with
  | none => .error .value
  | some source => .ok source

def selectedSource (label : String) : Except PyError (Option Source) :=
  match sourceOf label with
  | .error error => if error.isA .value then .ok none else .error error
  | .ok source => .ok (if source ∈ musicSources then some source else none)

def pinned (fields : List (String × Json)) : Except PyError (Option Source) :=
  match field fields "mode" with
  | some (.str mode) =>
      if mode ≠ "manual" then .ok none
      else
        match field fields "selected_source" with
        | some (.str label) => if label = "" then .ok none else selectedSource label
        | _ => .ok none
  | _ => .ok none

def readManualSource (loads : Loads) (content : FileContent) : Except PyError (Option Source) :=
  match readText content with
  | .error error => if error.isA .fileNotFound || error.isA .os then .ok none else .error error
  | .ok raw =>
      match loadText loads raw with
      | .error error => if error.isA .jsonDecode then .ok none else .error error
      | .ok (.dict fields) => pinned fields
      | .ok _ => .ok none

def modePayload : Option Source → Json
  | none => .dict [("mode", .str "auto")]
  | some source => .dict [("mode", .str "manual"), ("selected_source", .str (value source))]

def writeMode (dumps : Json → String) (manualSource : Option Source) : ByteArray :=
  (dumps (modePayload manualSource) ++ "\n").toUTF8

variable {loads : Loads}

/-- The file reads as a source that can be selected or none. -/
def SoftMode (loads : Loads) (content : FileContent) : Prop :=
  ∃ source, readManualSource loads content = .ok source ∧ ∀ chosen ∈ source, chosen ∈ musicSources

/-- The text decodes, and what stops its parse is its grammar. -/
def ReadsWhen (loads : Loads) (content : FileContent) : Prop :=
  ∀ data, content = .bytes data →
    ∃ text, String.fromUTF8? data = some text ∧ loads text ≠ .error .depth ∧ loads text ≠ .error .digits

theorem selectedSource_soft (label : String) :
    ∃ source, selectedSource label = .ok source ∧ ∀ chosen ∈ source, chosen ∈ musicSources := by
  rw [selectedSource, sourceOf]
  cases [Source.airplay, .spotify, .bluetooth, .usbsink, .idle].find? fun source => value source = label with
  | none => exact ⟨none, rfl, fun chosen mem => absurd mem (Option.not_mem_none chosen)⟩
  | some source =>
      refine ⟨_, rfl, fun chosen mem => ?_⟩
      split at mem
      next listed => exact Option.some.inj mem ▸ listed
      next => exact absurd mem (Option.not_mem_none chosen)

theorem pinned_soft (fields : List (String × Json)) :
    ∃ source, pinned fields = .ok source ∧ ∀ chosen ∈ source, chosen ∈ musicSources := by
  have open_mode : ∃ source, (Except.ok none : Except PyError (Option Source)) = .ok source ∧ ∀ chosen ∈ source, chosen ∈ musicSources :=
    ⟨none, rfl, fun chosen mem => absurd mem (Option.not_mem_none chosen)⟩
  rw [pinned.eq_def]
  split
  · split
    · exact open_mode
    split
    · split
      · exact open_mode
      · exact selectedSource_soft _
    · exact open_mode
  · exact open_mode

theorem soft_of_auto {content : FileContent} (auto : readManualSource loads content = .ok none) : SoftMode loads content :=
  ⟨none, auto, fun chosen mem => absurd mem (Option.not_mem_none chosen)⟩

theorem not_soft_of_error {content : FileContent} {error : PyError} (failed : readManualSource loads content = .error error) :
    ¬SoftMode loads content := by
  rintro ⟨source, read, -⟩
  exact absurd (failed.symm.trans read) nofun

theorem readManualSource_text {data : ByteArray} {text : String} (decoded : String.fromUTF8? data = some text) :
    readManualSource loads (.bytes data) =
      match loads text with
      | .error error => if error.error.isA .jsonDecode then .ok none else .error error.error
      | .ok (.dict fields) => pinned fields
      | .ok _ => .ok none := by
  rw [readManualSource, readText, decoded]
  dsimp only
  rw [loadText]
  cases loads text with
  | error error => rfl
  | ok json => cases json <;> rfl

theorem text_soft_iff {data : ByteArray} {text : String} (decoded : String.fromUTF8? data = some text) :
    SoftMode loads (.bytes data) ↔ loads text ≠ .error .depth ∧ loads text ≠ .error .digits := by
  have read := @readManualSource_text loads data text decoded
  cases parsed : loads text with
  | error error =>
      rw [parsed] at read
      cases error with
      | decode => exact iff_of_true (soft_of_auto read) ⟨nofun, nofun⟩
      | digits => exact iff_of_false (not_soft_of_error read) fun holds => holds.2 rfl
      | depth => exact iff_of_false (not_soft_of_error read) fun holds => holds.1 rfl
  | ok json =>
      rw [parsed] at read
      refine iff_of_true ?_ ⟨nofun, nofun⟩
      cases json with
      | dict fields =>
          obtain ⟨source, chosen, listed⟩ := pinned_soft fields
          exact ⟨source, read.trans chosen, listed⟩
      | null | bool value | int value | float value | str value | list items => exact soft_of_auto read

/-- A mode file reads softly when its bytes decode and no number or nesting in it is too long. -/
theorem soft_mode_iff (content : FileContent) : SoftMode loads content ↔ ReadsWhen loads content := by
  cases content with
  | missing => exact iff_of_true (soft_of_auto rfl) nofun
  | unreadable => exact iff_of_true (soft_of_auto rfl) nofun
  | bytes data =>
      cases decoded : String.fromUTF8? data with
      | none =>
          have failed : readManualSource loads (.bytes data) = .error .unicodeDecode := by
            rw [readManualSource, readText, decoded]
            exact if_neg (by decide)
          refine iff_of_false (not_soft_of_error failed) fun holds => ?_
          obtain ⟨text, decoded', -⟩ := holds data rfl
          exact absurd (decoded.symm.trans decoded') nofun
      | some text =>
          rw [text_soft_iff decoded]
          constructor
          · intro clear data' same
            obtain rfl := FileContent.bytes.inj same
            exact ⟨text, decoded, clear⟩
          · intro holds
            obtain ⟨text', decoded', clear⟩ := holds data rfl
            obtain rfl := Option.some.inj (decoded.symm.trans decoded')
            exact clear

/-- Every mode but a pin of the idle source is read as it was written. -/
theorem written_mode_iff {dumps : Json → String} {mode : Option Source}
    (reads : loads (dumps (modePayload mode) ++ "\n") = .ok (modePayload mode)) :
    readManualSource loads (.bytes (writeMode dumps mode)) = .ok mode ↔ mode ≠ some .idle := by
  rw [writeMode, readManualSource_text (fromUTF8?_toUTF8 _), reads]
  cases mode with
  | none => exact iff_of_true (by decide) nofun
  | some source => cases source <;> decide

end Jts.Volume.ModeFile
