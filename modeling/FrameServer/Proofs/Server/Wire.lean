import FrameServer.Proofs.Server.Membership
import FrameServer.Proofs.Server.Notice
import FrameServer.Proofs.Session.Tally

namespace FrameServer.Server

open Session (WholeThenCut)

/-- Every session of a server began with nothing on its lane, and its wire holds what was taken of the frames of
its sends since, in the order of their turns. -/
theorem wire_of_play {a : Application} {ls : List Label} {t : State} {k : SessionKey} {x : Session}
    (run : play a {} ls = some t) (hx : t.hub.session? k = some x) :
    ∃ (s : Session) (n : Nat) (ms : List Session.Move), s.lane = { framing := a.framing } ∧
      s.Path n ms t.hub.tickets x ∧ x.lane.wire = (s.ledger [] ms).reverse.flatMap (·.part) ∧
      ∀ w ∈ s.ledger [] ms, .send w.ticket w.message ∈ ms ∧ w.Sound a.framing := by
  obtain ⟨clock, id, peer, n, ms, path⟩ := session_of_play run hx
  have kept := path.kept (f := a.framing) rfl
  have asked := path.asked (f := a.framing) rfl
  exact ⟨_, n, ms, rfl, path, kept.wire, fun w hw => ⟨asked.book w hw, kept.sound w hw⟩⟩

def noticeServer : Application where
  settings := { idleTimeout := 5, sweepInterval := 4, shutdownNotice := "bye" }
  handler := fun _ => .done (.ok none)
  chain := .ofList []

/-- The server stops while the notice to an idle session is written, of which its connection takes four bytes. -/
def tornNotice : List Label :=
  [.serve "127.0.0.1:7000" 7000, .connect 0 "s" "127.0.0.1:50000", .enroll 0, .widen 0 4, .pass 10, .watch 0, .stop,
    .widen 0 64]

theorem wire_tornNotice : ∃ t x, play noticeServer {} tornNotice = some t ∧ t.hub.session? 0 = some x ∧
    x.lane.wire = textBytes "KEEPbye\n" ∧
    (∀ messages cut, ¬ WholeThenCut noticeServer.framing (· ∈ [idleNotice, textBytes "bye"]) x.lane.wire messages cut) ∧
    (noticeServer.framing.readAll [x.lane.wire] .eof).messages = [textBytes "KEEPbye"] := by
  have wire : ((play noticeServer {} tornNotice).bind fun t => t.hub.session? 0).map (·.lane.wire) =
      some (textBytes "KEEPbye\n") := by decide +kernel
  obtain ⟨x, hx, wire⟩ := Option.map_eq_some_iff.mp wire
  obtain ⟨t, run, hx⟩ := Option.bind_eq_some_iff.mp hx
  refine ⟨t, x, run, hx, wire, ?_, by rw [wire]; decide +kernel⟩
  have frames : ∀ m w, m ∈ [idleNotice, textBytes "bye"] → noticeServer.framing.encode m = .ok w →
      w = idleNotice ++ [10] ∨ w = textBytes "bye\n" := by
    intro m w hm hw
    rcases List.mem_pair.mp hm with rfl | rfl
    · exact .inl (Except.ok.inj hw).symm
    · exact .inr (Except.ok.inj hw).symm
  rintro messages cut ⟨sent, ⟨bytes, encoded, split⟩, short⟩
  rw [wire] at split
  cases messages with
  | nil =>
    obtain rfl := Except.ok.inj encoded
    rw [List.nil_append] at split
    subst split
    rcases short with none | ⟨m, w, hm, hw, part, -⟩
    · revert none
      decide
    · rcases frames m w hm hw with rfl | rfl
      · revert part
        decide
      · revert part
        decide
  | cons m ms =>
    obtain ⟨w, ws, hw, -, rfl⟩ := Framing.encodeAll_cons encoded
    have first : w <+: textBytes "KEEPbye\n" := ⟨ws ++ cut, by rw [split, List.append_assoc]⟩
    rcases frames m w (sent m List.mem_cons_self) hw with rfl | rfl
    · revert first
      decide
    · revert first
      decide

variable {a : Application} {ls : List Label} {t : State}

theorem orderly_of_play (run : play a {} ls = some t) : t.hub.Orderly a.framing := by
  refine ⟨fun k s hs => ?_, play_keys run, fun k registered => ?_, fun k s _ => ?_⟩
  · obtain ⟨clock, id, peer, n, ms, path⟩ := session_of_play run hs
    exact ⟨_, n, ms, rfl, path⟩
  · exact Option.ne_none_iff_exists'.mp (session_of_registered (play_standing run) registered)
  · rw [play_unread run k]
    exact Nat.zero_le _

/-- At any time the count of a broadcast tells of the wires of a server's sessions. -/
theorem tallies_of_play (run : play a {} ls = some t) (m : Bytes) : t.hub.Tallies m :=
  (orderly_of_play run).coherent.tallies (orderly_of_play run).there m

end FrameServer.Server
