import FuzzyRank.Cli.Filter

/-!
What comes of writing through a buffer.

Where a failure shows depends on the size of the buffer: at any piece of any line, or only when the
buffer is emptied at the end. What does not depend on it is said by `Wrote`: either all is well, and
what was written has arrived or waits; or the outlet takes nothing, and there was something to
write. Every piece is written in this sense, and so is what is put together from pieces, up to the
whole listing.
-/

namespace FuzzyRank.Cli

/-- All that has been written well, whether it has arrived or waits. -/
def Channel.written (c : Channel) : String :=
  c.arrived ++ c.held

/-- What writing a text comes to: the result, and the channel after it. -/
inductive Wrote (c : Channel) (text : String) : Except WriteError Unit × Channel → Prop
  | well {c' : Channel} (outlet : c'.outlet = c.outlet) (written : c'.written = c.written ++ text)
      (kept : c.outlet.refusal ≠ none → c'.arrived = c.arrived) : Wrote c text (.ok (), c')
  | failed {e : WriteError} {c' : Channel} (refusal : c.outlet.refusal = some e)
      (something : c.held ++ text ≠ "") (kept : c'.arrived = c.arrived) :
      Wrote c text (.error e, c')

/-- The action writes the text, whatever has been written before. -/
def Writes (action : Writing Unit) (text : String) : Prop :=
  ∀ c, Wrote c text (action.run.run c)

variable {c c' : Channel} {s t text : String} {result : Except WriteError Unit × Channel}

/-! ## One text after another -/

namespace Wrote

/-- Where nothing arrives, all that is written waits. -/
theorem held_eq (h : Wrote c text (.ok (), c')) (hrefusal : c.outlet.refusal ≠ none) :
    c'.held = c.held ++ text := by
  cases h with
  | well _ hwritten hkept =>
    unfold Channel.written at hwritten
    rw [hkept hrefusal, String.append_assoc, String.append_right_inj] at hwritten
    exact hwritten

/-- After one text the next is written. -/
theorem append (hs : Wrote c s (.ok (), c')) (ht : Wrote c' t result) :
    Wrote c (s ++ t) result := by
  have hheld := hs.held_eq
  cases hs with
  | well houtlet hwritten hkept =>
    cases ht with
    | well houtlet' hwritten' hkept' =>
      refine .well (houtlet'.trans houtlet) ?_ fun hrefusal => ?_
      · rw [hwritten', hwritten, String.append_assoc]
      · rw [hkept' (houtlet ▸ hrefusal), hkept hrefusal]
    | failed hrefusal hsomething hkept' =>
      rw [houtlet] at hrefusal
      have hne : c.outlet.refusal ≠ none := by simp [hrefusal]
      refine .failed hrefusal ?_ (hkept'.trans (hkept hne))
      rwa [← String.append_assoc, ← hheld hne]

/-- After a failure nothing more is written. -/
theorem failed_append {e : WriteError} (h : Wrote c s (.error e, c')) (t : String) :
    Wrote c (s ++ t) (.error e, c') := by
  cases h with
  | failed hrefusal hsomething hkept =>
    refine .failed hrefusal ?_ hkept
    intro hempty
    rw [← String.append_assoc, String.append_eq_empty_iff] at hempty
    exact hsomething hempty.1

end Wrote

namespace Writing

theorem run_bind (a b : Writing Unit) (c : Channel) : (do a; b : Writing Unit).run.run c =
    match a.run.run c with
    | (.ok (), c') => b.run.run c'
    | (.error e, c') => (.error e, c') := by
  show StateT.run (ExceptT.bindCont (fun _ => b) (a.run.run c).1) (a.run.run c).2 = _
  obtain ⟨r, c'⟩ := a.run.run c
  cases r <;> rfl

/-- An action that writes a text, and one that writes the next wherever it may begin, write both. -/
theorem wrote_bind {a b : Writing Unit} (ha : Wrote c s (a.run.run c))
    (hb : ∀ c', a.run.run c = (.ok (), c') → Wrote c' t (b.run.run c')) :
    Wrote c (s ++ t) ((do a; b : Writing Unit).run.run c) := by
  rw [run_bind]
  cases hresult : a.run.run c with
  | mk r c' =>
    rw [hresult] at ha
    cases r with
    | ok => exact ha.append (hb c' hresult)
    | error e => exact ha.failed_append t

end Writing

namespace Writes

theorem pure : Writes (pure ()) "" := by
  intro c
  exact .well rfl String.append_empty.symm fun _ => rfl

theorem bind {a b : Writing Unit} (ha : Writes a s) (hb : Writes b t) :
    Writes (do a; b) (s ++ t) := by
  intro c
  exact Writing.wrote_bind (ha c) fun c' _ => hb c'

end Writes

/-! ## The buffer -/

namespace Writing

theorem run_hand (text : String) (c : Channel) : (hand text).run.run c =
    match c.outlet.refusal with
    | some e => if text.isEmpty then (.ok (), c) else (.error e, c)
    | none => (.ok (), { c with arrived := c.arrived ++ text }) := by
  unfold hand
  show StateT.run (ExceptT.run (match c.outlet.refusal with | some e => _ | none => _)) c = _
  cases c.outlet.refusal with
  | none => rfl
  | some e =>
    dsimp only
    split <;> rfl

/-- A text may be handed on if nothing waits before it. -/
theorem hand_wrote (hheld : c.held = "") (text : String) :
    Wrote c text ((hand text).run.run c) := by
  rw [run_hand]
  cases hrefusal : c.outlet.refusal with
  | none =>
    refine .well rfl ?_ fun hne => absurd hrefusal hne
    simp [Channel.written, hheld]
  | some e =>
    by_cases hempty : text = ""
    · subst hempty
      exact .well rfl String.append_empty.symm fun _ => rfl
    · simp only [String.isEmpty_iff, hempty, if_false]
      refine .failed hrefusal ?_ rfl
      simpa [hheld] using hempty

theorem hold_writes (text : String) : Writes (hold text) text := by
  intro c
  exact .well rfl (String.append_assoc).symm fun _ => rfl

theorem run_flush (c : Channel) : flush.run.run c =
    match (hand c.held).run.run c with
    | (.ok (), c') => (.ok (), { c' with held := "" })
    | (.error e, c') => (.error e, c') := by
  show (do hand c.held; modify fun channel => { channel with held := "" } :
    Writing Unit).run.run c = _
  rw [run_bind]
  rfl

/-- Emptying the buffer writes nothing new, and leaves nothing waiting if it goes well. -/
theorem flush_writes : Writes flush "" := by
  intro c
  rw [run_flush, run_hand]
  cases hrefusal : c.outlet.refusal with
  | none =>
    refine .well rfl ?_ fun hne => absurd hrefusal hne
    simp [Channel.written]
  | some e =>
    by_cases hempty : c.held = ""
    · simp only [hempty, show "".isEmpty = true from rfl, if_true]
      refine .well rfl ?_ fun _ => rfl
      simp [Channel.written, hempty]
    · simp only [String.isEmpty_iff, hempty, if_false]
      refine .failed hrefusal ?_ rfl
      simpa using hempty

theorem held_of_flush (h : flush.run.run c = (.ok (), c')) : c'.held = "" := by
  rw [run_flush] at h
  cases hresult : (hand c.held).run.run c with
  | mk r c'' =>
    rw [hresult] at h
    cases r with
    | ok =>
      cases h
      rfl
    | error e => cases h

variable {capacity : Nat}

theorem makeRoom_cases (capacity : Nat) (text : String) (c : Channel) :
    (makeRoom capacity text).run.run c =
      if c.held.utf8ByteSize + text.utf8ByteSize > capacity then flush.run.run c
      else (.ok (), c) := by
  show StateT.run (ExceptT.run (if _ then flush else Pure.pure ())) c = _
  split <;> rfl

theorem makeRoom_writes (capacity : Nat) (text : String) : Writes (makeRoom capacity text) "" := by
  intro c
  rw [makeRoom_cases]
  split
  · exact flush_writes c
  · exact Writes.pure c

/-- A text that is too long to wait finds nothing waiting before it. -/
theorem held_of_makeRoom (h : (makeRoom capacity text).run.run c = (.ok (), c'))
    (hlong : text.utf8ByteSize ≥ capacity) : c'.held = "" := by
  rw [makeRoom_cases] at h
  split at h
  · exact held_of_flush h
  · next hfits =>
    cases h
    rw [← String.utf8ByteSize_eq_zero_iff]
    omega

theorem put_writes (capacity : Nat) (text : String) : Writes (put capacity text) text := by
  intro c
  rw [← String.empty_append (s := text)]
  refine wrote_bind (makeRoom_writes capacity _ c) fun c' hroom => ?_
  split
  · next hlong => exact hand_wrote (held_of_makeRoom hroom hlong) _
  · exact hold_writes _ c'

/-! ## Lines -/

theorem putScore_writes (capacity : Nat) (o : Options) (m : RankedMatch) :
    Writes (putScore capacity o m)
      (if o.printScore then toString m.result.score ++ "\t" else "") := by
  unfold putScore
  split
  · exact (put_writes capacity _).bind (put_writes capacity _)
  · exact .pure

theorem putText_writes (capacity : Nat) (o : Options) (m : RankedMatch) :
    Writes (putText capacity o m) (if o.highlight then highlighted m else m.text) := by
  unfold putText
  split
  · exact put_writes capacity _
  · exact put_writes capacity _

theorem putPositions_writes (capacity : Nat) (o : Options) (m : RankedMatch) :
    Writes (putPositions capacity o m)
      (if o.printPositions then "\t" ++ positionsField m else "") := by
  unfold putPositions
  split
  · exact (put_writes capacity _).bind (put_writes capacity _)
  · exact .pure

theorem putLine_writes (capacity : Nat) (o : Options) (m : RankedMatch) :
    Writes (putLine capacity o m) (line o m) := by
  unfold line
  rw [String.append_assoc, String.append_assoc]
  apply (putScore_writes capacity o m).bind
  apply (putText_writes capacity o m).bind
  apply (putPositions_writes capacity o m).bind
  exact put_writes capacity _

theorem putLines_writes (capacity : Nat) (o : Options) (ms : List RankedMatch) :
    Writes (putLines capacity o ms) (String.join (ms.map (line o))) := by
  induction ms with
  | nil => exact .pure
  | cons m rest ih =>
    rw [List.map_cons, String.join_cons]
    exact (putLine_writes capacity o m).bind ih

theorem putListing_writes (capacity : Nat) (o : Options) (ranked : List RankedMatch) :
    Writes (putListing capacity o ranked) (listing o ranked) := by
  rw [← String.append_empty (s := listing o ranked)]
  exact (putLines_writes capacity o _).bind flush_writes

/-- Nothing waits after a listing that is written well. -/
theorem held_of_putListing {capacity : Nat} {o : Options} {ranked : List RankedMatch}
    (h : ((putListing capacity o ranked).run.run c).1 = .ok ()) :
    ((putListing capacity o ranked).run.run c).2.held = "" := by
  cases hresult : (putListing capacity o ranked).run.run c with
  | mk r c' =>
    rw [hresult] at h
    obtain rfl : r = .ok () := h
    unfold putListing at hresult
    rw [run_bind] at hresult
    split at hresult
    · exact held_of_flush hresult
    · cases hresult

end Writing

/-! ## Runs -/

/-- The same comes of writing through a buffer as of writing the whole text in one go. -/
theorem Wrote.eq_write {outlet : Outlet} (matched : Bool) (h : Wrote (.fresh outlet) text result)
    (hheld : result.1 = .ok () → result.2.held = "") :
    answerAfter matched result.1 = (outlet.write text).map (fun _ => matched) ∧
      result.2.arrived = (outlet.write text).toOption.getD "" := by
  cases h with
  | @well c' houtlet hwritten hkept =>
    have hnone : c'.held = "" := hheld rfl
    have harrived : c'.arrived = text := by
      simpa [Channel.written, Channel.fresh, hnone] using hwritten
    cases outlet with
    | working => exact ⟨rfl, harrived⟩
    | closed => exact ⟨rfl, hkept (Option.some_ne_none _)⟩
    | failing cause =>
      have hempty : c'.arrived = "" := hkept (Option.some_ne_none _)
      rw [← harrived, hempty]
      exact ⟨rfl, rfl⟩
  | failed hrefusal hsomething hkept =>
    have hne : text ≠ "" := by simpa [Channel.fresh] using hsomething
    cases outlet with
    | working => cases hrefusal
    | closed =>
      cases hrefusal
      exact ⟨rfl, hkept⟩
    | failing cause =>
      cases hrefusal
      have hwrite : (Outlet.failing cause).write text = .error (.cannotWrite cause) := by
        simp [Outlet.write, String.isEmpty_iff, hne]
      rw [hwrite]
      exact ⟨rfl, hkept⟩

/-- The size of the buffer makes no difference to what a run comes to. -/
theorem runBuffered_value (capacity : Nat) (o : Options) (bytes : List UInt8) (outlet : Outlet) :
    (runBuffered capacity o (.ok bytes) outlet).value =
      let ranked := (rankInput o bytes).value
      let written := outlet.write (listing o ranked)
      ⟨written.map fun _ => !ranked.isEmpty, written.toOption.getD ""⟩ := by
  have hwrote := Writing.putListing_writes capacity o (rankInput o bytes).value (.fresh outlet)
  obtain ⟨hanswer, harrived⟩ :=
    hwrote.eq_write (!(rankInput o bytes).value.isEmpty) Writing.held_of_putListing
  dsimp only
  rw [← hanswer, ← harrived]
  rfl

/-- What a run reports. -/
theorem run_eq_write (o : Options) (bytes : List UInt8) (outlet : Outlet) :
    (run o (.ok bytes) outlet).value =
      let ranked := (rankInput o bytes).value
      (outlet.write (listing o ranked)).map fun printed => ⟨!ranked.isEmpty, printed⟩ := by
  show Except.map _ (runBuffered bufferSize o (.ok bytes) outlet).value.answer = _
  rw [runBuffered_value]
  dsimp only
  cases outlet.write (listing o (rankInput o bytes).value) <;> rfl

end FuzzyRank.Cli
