/-
  ApiTools.Proofs.Specification.Reading
  ─────────────────────────────────────
  **HOW READING A SPECIFICATION ENDS.**

  A file that is there gives a mapping, or the failure that names the file, or
  one of the faults that reading does not turn into that failure (`Ending`,
  `Loaded.ending_of_readFile`).  Each of the latter has its cause in the
  octets: they are no text, a whole number of a JSON text is too long, a JSON
  text opens more levels than may nest, or the YAML library refuses the text
  for whatever reason.  Those of the library that is used are known
  (`Yaml.Refused`, `refused_of_readValue`).

  None of these causes is idle: a day in a thirteenth month is a scalar that
  is refused, and the fault that comes out does not name the file
  (`Loaded.exists_fault_without_file`).
-/
import ApiTools.Proofs.Json.Denotation
import ApiTools.Proofs.Text.Utf8
import ApiTools.Proofs.Yaml.Refusals
import ApiTools.Specification.Load
import ApiTools.Standard

namespace ApiTools

/-! ## §1. Octets. -/

/-- Octets that are called undecodable are not those of any text. -/
theorem Text.ne_encodeUtf8_of_decodeFile {octets : List UInt8} {u : Undecodable}
    (h : decodeFile octets = .error u) (cs : List Char) : octets ≠ encodeUtf8 cs := by
  rintro rfl
  unfold decodeFile at h
  rw [decode_encodeUtf8] at h
  exact absurd h (by simp [Except.map])

namespace Specification

/-! ## §2. Endings. -/

/-- **How reading a file ends**, by its octets and its name. -/
inductive Ending (library : Library) (octets : List UInt8) (name : String) :
    Except Fault Value → Prop
  | document {v : Value} (mapping : v.isMapping = true) : Ending library octets name (.ok v)
  | unreadable (reason : Unreadable) :
      Ending library octets name (.error (.specUnreadable name reason))
  | undecodable {u : Text.Undecodable} (no_text : ∀ cs, octets ≠ Text.encodeUtf8 cs) :
      Ending library octets name (.error (.undecodable u))
  | longNumber {text : String} {n : Nat} (json : isYamlFile name = false)
      (decoded : Text.decodeFile octets = .ok text) (long : Number.digitLimit < n)
      (run : Json.HasRun n text.toList) :
      Ending library octets name (.error (.refused (.tooManyDigits n)))
  | deep {text : String} (json : isYamlFile name = false)
      (decoded : Text.decodeFile octets = .ok text)
      (more : library.reading < Json.openings text.toList) :
      Ending library octets name (.error .tooDeep)
  | refused {text : String} {f : Fault} (yaml : isYamlFile name = true)
      (decoded : Text.decodeFile octets = .ok text)
      (cause : library.yaml text = .error (.refused f)) : Ending library octets name (.error f)

variable {library : Library} {octets : List UInt8} {text name : String}

/-- Why a text that is no malformed JSON gives no value: its first character is no mark, so the text
itself has been read. -/
theorem overlong_of_read {nesting : Nat} {p : Json.Problem}
    (h : Json.read nesting text = .error p) (other : ∀ m, p ≠ .malformed m) :
    Json.Overlong nesting text.toList p := by
  unfold Json.read at h
  dsimp only at h
  split at h
  next =>
    injection h with h
    exact absurd h.symm (other _)
  next => exact Json.overlong_of_readWhole h

/-- The failures of a text, by its format. -/
theorem ending_of_readValue {f : Fault} (decoded : Text.decodeFile octets = .ok text)
    (h : readValue library text name = .error f) : Ending library octets name (.error f) := by
  unfold readValue at h
  split at h
  next yaml =>
    split at h
    next => exact absurd h (by simp)
    next =>
      injection h with h
      rw [← h]
      exact .unreadable .yaml
    next failed =>
      injection h with h
      rw [← h]
      exact .refused yaml decoded failed
  next other =>
    have json : isYamlFile name = false := Bool.eq_false_iff.mpr other
    split at h
    next => exact absurd h (by simp)
    next m _ =>
      injection h with h
      rw [← h]
      exact .unreadable (.json m)
    next p well_formed failed =>
      injection h with h
      rw [← h]
      cases overlong_of_read failed well_formed with
      | malformed => exact absurd rfl (well_formed _)
      | long long run => exact .longNumber json decoded long run
      | deep more => exact .deep json decoded more

/-- What the YAML library that is used refuses has its cause in the text. -/
theorem refused_of_readValue {f : Fault} (yaml : isYamlFile name = true)
    (used : library.yaml = Yaml.read .v11) (h : readValue library text name = .error f) :
    f = .specUnreadable name .yaml ∨ Yaml.Refused text f := by
  unfold readValue at h
  rw [if_pos yaml, used] at h
  split at h
  next => exact absurd h (by simp)
  next =>
    injection h with h
    exact Or.inl h.symm
  next failed =>
    injection h with h
    rw [← h]
    exact Or.inr (Yaml.refused_of_read failed)

theorem ending_of_read (decoded : Text.decodeFile octets = .ok text) :
    Ending library octets name (read library text name) := by
  unfold read
  cases value : readValue library text name with
  | error f => exact ending_of_readValue decoded value
  | ok v =>
      rw [ok_bind]
      split
      next mapping => exact .document mapping
      next => exact .unreadable (.notAMapping v.kindName)

end Specification

namespace Loaded

open Specification (Ending)

/-- **READING A FILE GIVES A MAPPING, OR FAILS WITH ITS NAME, OR HAS A FAULT FOR A CAUSE IN THE
OCTETS**, whatever these are and whichever library reads YAML. -/
theorem ending_of_readFile {files : Files} {f : SpecificationFile} {octets : List UInt8}
    (library : Library) (there : files.read f.path = .ok octets) :
    Ending library octets f.name (readFile library files f) := by
  unfold readFile Files.readText
  rw [there, ok_bind]
  -- the octets are decoded first, whatever the format
  cases decoded : Text.decodeFile octets with
  | error u => exact .undecodable (Text.ne_encodeUtf8_of_decodeFile decoded)
  | ok text => exact Specification.ending_of_read decoded

/-! ## §3. A day that does not exist. -/

def monthText : String := "info:\n  released: 2020-13-01\n"

def monthFiles : Files :=
  ⟨[(["openapi"], .folder), (["openapi", "a.yml"], .file monthText.toUTF8.toList)], []⟩

def monthFile : SpecificationFile := ⟨"openapi", "a.yml", .standard (.str "a") (.str "1")⟩

/-- The problem of a calendar that a fault is. -/
def calendarProblem? : Except Fault Value → Option CalendarProblem
  | .error (.refused (.calendar p)) => some p
  | _ => none

theorem readFile_monthFile :
    readFile .standard monthFiles monthFile = .error (.refused (.calendar .month)) := by
  have found : calendarProblem? (readFile .standard monthFiles monthFile) = some .month := by
    decide +kernel
  unfold calendarProblem? at found
  split at found
  next p failed =>
    injection found with found
    rw [failed, found]
  next => exact absurd found (by simp)

theorem ending_of_readFile_month :
    monthFiles.read monthFile.path = .ok monthText.toUTF8.toList
      ∧ Ending .standard monthText.toUTF8.toList "a.yml" (.error (.refused (.calendar .month))) := by
  have there : monthFiles.read monthFile.path = .ok monthText.toUTF8.toList := by rfl
  have ending := ending_of_readFile .standard there
  rw [readFile_monthFile] at ending
  exact ⟨there, ending⟩

/-- **READING CAN FAIL WITHOUT NAMING THE FILE.** -/
theorem exists_fault_without_file :
    ∃ (files : Files) (f : SpecificationFile) (octets : List UInt8),
      files.read f.path = .ok octets ∧ Specification.isYamlFile f.name = true
        ∧ (∀ v, readFile .standard files f ≠ .ok v)
        ∧ ∀ reason, readFile .standard files f ≠ .error (.specUnreadable f.name reason) := by
  refine ⟨monthFiles, monthFile, monthText.toUTF8.toList, by rfl, by decide +kernel, ?_, ?_⟩
  · intro v done
    rw [readFile_monthFile] at done
    exact absurd done (by simp)
  · intro reason failed
    rw [readFile_monthFile] at failed
    exact absurd failed (by simp)

end Loaded

end ApiTools
