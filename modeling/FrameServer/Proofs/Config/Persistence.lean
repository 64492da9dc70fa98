import FrameServer.Config.Folder
import FrameServer.Proofs.Config.Document
import FrameServer.Proofs.Text.Utf8

namespace FrameServer

namespace Folder

/-- Whether a file can be put there, whatever is in it. -/
def Writable (d : Folder) : Prop := ∀ s, ∃ d', d.write s = .ok d'

/-- The directory after its configuration was asked for. -/
def afterLoad (d : Folder) : Folder :=
  match Config.loadOrCreate d with
  | .ok (_, d') => d'
  | .error _ => d

theorem read_textBytes (s : String) : (plain (some (textBytes s))).read = .ok s := by
  simp only [read, text?_textBytes]

end Folder

namespace Config

variable {c : Config} {d d' : Folder} {s : String}

/-- A file can be saved where there is none or any other, and then is all there is. -/
theorem save_ok_iff : c.save d = .ok d' ↔ (∃ file, d = .plain file) ∧ d' = .plain (some (textBytes c.render)) := by
  cases d with
  | plain file => simp [save, Folder.write, eq_comm]
  | fileIsFolder => simp [save, Folder.write]
  | belowFile => simp [save, Folder.write]

theorem ofFolder_saved (saved : c.save d = .ok d') : ofFolder d' = .ok c := by
  obtain ⟨-, rfl⟩ := save_ok_iff.mp saved
  rw [ofFolder, Folder.read_textBytes]
  simp only [bind, Except.bind, parse?_render]

theorem loadOrCreate_saved (saved : c.save d = .ok d') : loadOrCreate d' = .ok (c, d') := by
  have loaded := ofFolder_saved saved
  obtain ⟨-, rfl⟩ := save_ok_iff.mp saved
  have there : (Folder.plain (some (textBytes c.render))).hasFile := rfl
  rw [loadOrCreate, if_pos there, loaded]
  rfl

theorem ofFolder_unreadable (read : d.read = .ok s) (unreadable : parse? s = none) : ofFolder d = .error .parse := by
  rw [ofFolder, read]
  simp only [bind, Except.bind, unreadable]

end Config

/-- How a directory keeps a configuration. -/
structure Folder.Persists (d : Folder) : Prop where
  /-- Whatever it held, what is saved is loaded, and any other configuration is replaced by it. -/
  saved : ∀ (c : Config) (d' : Folder), c.save d = .ok d' → Config.loadOrCreate d' = .ok (c, d') ∧
    ∀ c₀ : Config, c₀.reload d' = .ok (if c₀ = c then none else some c)
  /-- Where there is no file, the default is put there. -/
  created : d.Writable → d.hasFile = false → Config.loadOrCreate d = .ok ({}, d.afterLoad) ∧ d.afterLoad.hasFile ∧
    Config.loadOrCreate d.afterLoad = .ok ({}, d.afterLoad)
  /-- Text that is no configuration is refused, and stays. -/
  refused : ∀ s, d.read = .ok s → Config.parse? s = none → Config.loadOrCreate d = .error .parse ∧
    d.afterLoad = d ∧ ∀ c₀ : Config, c₀.reload d = .error .parse

/-- Every directory keeps what is saved in it, and what it cannot read. -/
theorem Folder.persists (d : Folder) : d.Persists where
  saved c d' saved := by
    have loaded := Config.ofFolder_saved saved
    refine ⟨Config.loadOrCreate_saved saved, fun c₀ => ?_⟩
    rw [Config.reload, loaded]
    by_cases same : c₀ = c
    · simp [Except.map, same]
    · simp [Except.map, same, Ne.symm same]
  created writable fresh := by
    obtain ⟨d', saved⟩ := writable (Config.render {})
    have loaded := Config.loadOrCreate_saved (c := {}) saved
    have created : Config.loadOrCreate d = .ok ({}, d') := by
      rw [Config.loadOrCreate, if_neg (by simp [fresh])]
      simp only [show Config.save {} d = .ok d' from saved, Except.map]
    have after : d.afterLoad = d' := by rw [afterLoad, created]
    have there : d'.hasFile := by
      obtain ⟨-, rfl⟩ := (Config.save_ok_iff (c := {})).mp saved
      rfl
    rw [after]
    exact ⟨created, there, loaded⟩
  refused s read unreadable := by
    have failed := Config.ofFolder_unreadable read unreadable
    have there : d.hasFile := by
      match d, read with
      | .plain (some _), _ => rfl
    have refused : Config.loadOrCreate d = .error .parse := by
      rw [Config.loadOrCreate, if_pos there, failed]
      rfl
    refine ⟨refused, ?_, fun c₀ => ?_⟩
    · rw [afterLoad, refused]
    · rw [Config.reload, failed]
      rfl

/-- Host, delimiter and level with quotes, escapes, a line end, a combining mark and a character of its own kind. -/
def awkward : Config :=
  { server := { host := "a\"b'\\\n\u0301\u200D", port := 65535, maxConnections := 18446744073709551615 }
    framing := { strategy := .lengthPrefixed, delimiter := '\'', maxFrameSize := 0 }
    dispatch := { mode := .command }
    log := { level := "\x00\t", file := true } }

theorem Folder.persists_awkward :
    Config.loadOrCreate (.plain (some (textBytes awkward.render))) =
      .ok (awkward, .plain (some (textBytes awkward.render))) ∧
    Config.reload {} (.plain (some (textBytes awkward.render))) = .ok (some awkward) ∧
    Config.loadOrCreate (.plain none) = .ok ({}, (Folder.plain none).afterLoad) ∧
    Config.loadOrCreate (.plain (some (textBytes "(not"))) = .error .parse := by
  have saved := (Folder.persists (.plain (some [1, 2]))).saved awkward (.plain (some (textBytes awkward.render))) rfl
  have created := (Folder.persists (.plain none)).created (fun s => ⟨_, rfl⟩) rfl
  have refused := (Folder.persists (.plain (some (textBytes "(not")))).refused "(not" (Folder.read_textBytes _)
    (by decide)
  refine ⟨saved.1, ?_, created.1, refused.1⟩
  rw [saved.2 {}, if_neg (by decide)]

end FrameServer
