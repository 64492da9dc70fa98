import FrameServer.Proofs.Framing.Conservation
import FrameServer.Proofs.Framing.Word

namespace FrameServer.Framing

variable {f : Framing} {b : Backlog}

/-- An answer that says no more than that the first frame is too long. -/
def Refuses (f : Framing) (t : Taken) : Prop := ∃ size, t = .error (.tooLarge size f.max)

/-- In front of a frame that is too long an operation takes nothing away. -/
theorem operate_oversized (searched : f.Searched b) (oversized : f.Oversized b.bytes) (op : Operation) :
    (∀ t, (f.operate b op).1 = some t → f.Refuses t) ∧ (f.operate b op).2.bytes = b.bytes ++ op.chunk := by
  obtain ⟨size, fails⟩ := decode_oversized searched oversized
  have refuses : f.Refuses (.error (.tooLarge size f.max)) := ⟨size, rfl⟩
  cases op with
  | feed chunk => exact ⟨nofun, rfl⟩
  | decode => simp [operate, fails, refuses, Operation.chunk]
  | decodeEof => simp [operate, decodeEof, fails, refuses, Operation.chunk]

theorem operateAll_oversized (searched : f.Searched b) (oversized : f.Oversized b.bytes) (ops : List Operation) :
    (∀ answer ∈ f.answers id b ops, ∀ t, answer.1 = some t → f.Refuses t) ∧
      (f.operateAll b ops).bytes = b.bytes ++ fed ops := by
  induction ops generalizing b with
  | nil => exact ⟨nofun, (List.append_nil _).symm⟩
  | cons op ops ih =>
    obtain ⟨refuses, bytes⟩ := operate_oversized searched oversized op
    have still : f.Oversized (f.operate b op).2.bytes := by
      rw [bytes]
      exact oversized.append op.chunk
    obtain ⟨later, rest⟩ := ih (searched_after searched op) still
    constructor
    · intro answer mem
      rcases List.mem_cons.mp mem with rfl | mem
      · exact refuses
      · exact later answer mem
    · calc (f.operateAll b (op :: ops)).bytes
          = (f.operate b op).2.bytes ++ fed ops := rest
        _ = b.bytes ++ fed (op :: ops) := by simp [bytes, fed]

/-- The same bytes, searched as far, with a word for the count. -/
theorem exists_word (searched : f.Searched b) (short : b.bytes.length < 2 ^ 64) :
    ∃ w : WordBacklog, w.backlog = b := by
  have small : b.scanned < 2 ^ 64 := by
    unfold Searched at searched
    split at searched <;> omega
  refine ⟨⟨b.bytes, UInt64.ofNat b.scanned⟩, ?_⟩
  rw [WordBacklog.backlog, UInt64.toNat_ofNat_of_lt' small]

/-- How the limit shows in an attempt to take a message. -/
structure Limited (f : Framing) (b : Backlog) : Prop where
  waits : (f.decode b).1 = .ok none → f.Within b.bytes
  returns : ∀ m, (f.decode b).1 = .ok (some m) → m.length ≤ f.max
  fails : f.Refuses (f.decode b).1 ↔ f.Oversized b.bytes
  refuses : ∀ e, (f.decode b).1 = .error e → f.Refuses (.error e)
  unchanged : ∀ e, (f.decode b).1 = .error e → (f.decode b).2.bytes = b.bytes
  sticks : ∀ e, (f.decode b).1 = .error e → ∀ later,
    (∀ answer ∈ f.answers id (f.decode b).2 later, ∀ t, answer.1 = some t → f.Refuses t) ∧
      (f.operateAll (f.decode b).2 later).bytes = b.bytes ++ fed later
  /-- No sum wraps around when all of it is done with words. -/
  words : ∀ max : UInt64, f.max = max.toNat → b.bytes.length < 2 ^ 64 →
    ∃ w : WordBacklog, w.backlog = b ∧ f.decode b = (decodeWord f.kind max w).map id WordBacklog.backlog

theorem decode_limited (searched : f.Searched b) : f.Limited b := by
  have words (max : UInt64) (same : f.max = max.toNat) (short : b.bytes.length < 2 ^ 64) :
      ∃ w : WordBacklog, w.backlog = b ∧ f.decode b = (decodeWord f.kind max w).map id WordBacklog.backlog := by
    obtain ⟨w, rfl⟩ := exists_word searched short
    obtain ⟨kind, _⟩ := f
    obtain rfl : _ = max.toNat := same
    exact ⟨w, rfl, decodeWord_eq w short kind max searched⟩
  have draws := decode_draws f b searched
  obtain ⟨r, attempt⟩ : ∃ r, f.decode b = r := ⟨_, rfl⟩
  rw [attempt] at draws
  cases draws with
  | message m frame rest carried front short fits =>
    exact {
      waits := by simp [attempt]
      returns := by simpa [attempt] using short
      fails := by simp [attempt, Refuses, fits]
      refuses := by simp [attempt]
      unchanged := by simp [attempt]
      sticks := by simp [attempt]
      words }
  | more b' same within fits =>
    exact {
      waits := fun _ => within
      returns := by simp [attempt]
      fails := by simp [attempt, Refuses, fits]
      refuses := by simp [attempt]
      unchanged := by simp [attempt]
      sticks := by simp [attempt]
      words }
  | failed size oversized =>
    exact {
      waits := by simp [attempt]
      returns := by simp [attempt]
      fails := by simp [attempt, Refuses, oversized]
      refuses := by simp [attempt, Refuses]
      unchanged := by simp [attempt]
      sticks := by
        intro e _ later
        rw [attempt]
        exact operateAll_oversized (f.searched_fresh b.bytes) oversized later
      words }

/-- Whatever was done with a buffer that was empty at first, it is held to the limit. -/
theorem operateAll_limited (f : Framing) (ops : List Operation) : f.Limited (f.operateAll {} ops) :=
  decode_limited (searched_after_all ops (f.searched_fresh []))

end FrameServer.Framing
