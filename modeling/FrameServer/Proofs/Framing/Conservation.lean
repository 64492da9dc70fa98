import FrameServer.Proofs.Framing.Front

namespace FrameServer.Framing

/-- The bytes that an operation brings. -/
def Operation.chunk : Operation → Bytes
  | .feed chunk => chunk
  | .decode | .decodeEof => []

/-- All bytes that were fed. -/
def fed (ops : List Operation) : Bytes := ops.flatMap Operation.chunk

/-- The message that an answer gives. -/
def message? : Option Taken → Option Bytes
  | some (.ok m) => m
  | _ => none

variable {f : Framing} {b : Backlog}

/-- The messages that the operations give, in order. -/
def messages (f : Framing) (b : Backlog) (ops : List Operation) : List Bytes :=
  (f.answers id b ops).filterMap fun answer => message? answer.1

theorem messages_cons (op : Operation) (ops : List Operation) :
    f.messages b (op :: ops) = (message? (f.operate b op).1).toList ++ f.messages (f.operate b op).2 ops := by
  simp only [messages, answers, id_eq, List.filterMap_cons]
  cases message? (f.operate b op).1 <;> rfl

/-- Taking a message moves its frame from the buffer to what was taken. -/
theorem operate_conserves {op : Operation} (h : f.Searched b) (before : op ≠ .decodeEof) :
    ∃ frames, List.Forall₂ f.Carries (message? (f.operate b op).1).toList frames ∧
      b.bytes ++ op.chunk = frames.flatten ++ (f.operate b op).2.bytes := by
  cases op with
  | feed chunk => exact ⟨[], .nil, rfl⟩
  | decode =>
    have draws := decode_draws f b h
    simp only [operate, Operation.chunk, List.append_nil]
    generalize f.decode b = r at draws ⊢
    cases draws with
    | message m frame rest carried front => exact ⟨[frame], .cons carried .nil, by simpa using front⟩
    | more b' same => exact ⟨[], .nil, same.symm⟩
    | failed size => exact ⟨[], .nil, rfl⟩
  | decodeEof => exact absurd rfl before

theorem operateAll_conserves {ops : List Operation} (h : f.Searched b) (before : .decodeEof ∉ ops) :
    ∃ frames, List.Forall₂ f.Carries (f.messages b ops) frames ∧
      b.bytes ++ fed ops = frames.flatten ++ (f.operateAll b ops).bytes := by
  induction ops generalizing b with
  | nil => exact ⟨[], .nil, List.append_nil _⟩
  | cons op ops ih =>
    obtain ⟨first, later⟩ := List.ne_and_not_mem_of_not_mem_cons before
    have searched : f.Searched (f.operate b op).2 := searched_after h op
    obtain ⟨frames, carried, split⟩ := operate_conserves h first.symm
    obtain ⟨others, carried', split'⟩ := ih searched later
    refine ⟨frames ++ others, ?_, ?_⟩
    · rw [messages_cons]
      exact List.rel_append carried carried'
    · calc b.bytes ++ fed (op :: ops)
          = (b.bytes ++ op.chunk) ++ fed ops := by simp [fed]
        _ = frames.flatten ++ ((f.operate b op).2.bytes ++ fed ops) := by rw [split, List.append_assoc]
        _ = frames.flatten ++ (others.flatten ++ (f.operateAll b (op :: ops)).bytes) := by rw [split']; rfl
        _ = (frames ++ others).flatten ++ (f.operateAll b (op :: ops)).bytes := by simp

/-- Before the stream ends, the bytes fed to a buffer are the frames of the messages taken from it, and then what it
holds. -/
theorem fed_eq_frames (f : Framing) (ops : List Operation) (before : .decodeEof ∉ ops) :
    ∃ frames, List.Forall₂ f.Carries (f.messages {} ops) frames ∧
      fed ops = frames.flatten ++ (f.operateAll {} ops).bytes :=
  operateAll_conserves (searched_fresh f []) before

/-- An empty message and one that is as long as may be, and a third that is announced to be too long. Each of them comes
in pieces. -/
def counted : List Operation :=
  [.feed [0, 0], .decode, .feed [0, 0, 0, 0], .decode, .decode, .feed [0, 2, 97, 98, 0], .decode, .feed [0, 0, 3, 99],
    .decode]

theorem fed_eq_frames_counted : .decodeEof ∉ counted ∧
    Framing.messages ⟨.lengthPrefixed, 2⟩ {} counted = [[], [97, 98]] ∧
    ∃ frames, List.Forall₂ (Framing.Carries ⟨.lengthPrefixed, 2⟩) [[], [97, 98]] frames ∧
      fed counted = frames.flatten ++ [0, 0, 0, 3, 99] := by
  have whole := fed_eq_frames ⟨.lengthPrefixed, 2⟩ counted (by decide)
  exact ⟨by decide, rfl, whole⟩

end FrameServer.Framing
