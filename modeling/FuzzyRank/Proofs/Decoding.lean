import FuzzyRank.Proofs.Candidates

/-!
What decoding makes of a sequence of bytes.

The spelling of a character is taken for the character. Where the bytes go on with no character's
spelling, the longest part that some spelling begins with is one ill-formed part, and so is a single
byte that begins none. This says what the decoded characters are and leaves nothing open. They are
found byte by byte, without looking ahead: what is kept of a character that is not finished tells
exactly which bytes can finish it.
-/

namespace FuzzyRank.Text

/-! ## Well-formed and ill-formed parts -/

/-- The bytes are the beginning of some character's spelling. -/
def Begins (part : List UInt8) : Prop :=
  ∃ c, part <+: String.utf8EncodeChar c

/-- Where no character is spelled, the part of the bytes to give up at once: the longest one that
some spelling begins with, or else a single byte. -/
structure IsIllFormedPart (part bytes : List UInt8) : Prop where
  isPrefix : part <+: bytes
  ne_nil : part ≠ []
  unspelled : ∀ c, ¬ String.utf8EncodeChar c <+: bytes
  begins : Begins part ∨ part.length = 1
  longest : ∀ longer, longer <+: bytes → Begins longer → longer.length ≤ part.length

/-- The characters of a sequence of bytes, with `none` for every ill-formed part. -/
inductive Decodes : List UInt8 → List (Option Char) → Prop where
  | nil : Decodes [] []
  | character (c : Char) {rest : List UInt8} {decoded : List (Option Char)} :
      Decodes rest decoded → Decodes (String.utf8EncodeChar c ++ rest) (some c :: decoded)
  | illFormed {part rest : List UInt8} {decoded : List (Option Char)} :
      IsIllFormedPart part (part ++ rest) → Decodes rest decoded →
        Decodes (part ++ rest) (none :: decoded)

/-! ## Spellings -/

/-- The number of bytes after the first in the spelling of a code point. -/
def tailLength (n : Nat) : Nat :=
  if n < 0x80 then 0 else if n < 0x800 then 1 else if n < 0x10000 then 2 else 3

/-- The last `count` groups of six bits of a code point, as bytes after the first. -/
def tailBytes : (count : Nat) → (n : Nat) → List UInt8
  | 0, _ => []
  | count + 1, n => UInt8.ofNat (0x80 + n / 64 ^ count % 64) :: tailBytes count n

/-- The mark by which the first byte of a spelling tells how many follow. -/
def leadMark : (tails : Nat) → Nat
  | 0 => 0
  | 1 => 0xC0
  | 2 => 0xE0
  | _ => 0xF0

/-- The first byte of the spelling of a code point. -/
def leadByte (n : Nat) : Nat :=
  leadMark (tailLength n) + n / 64 ^ tailLength n

section Spelling

variable {b : UInt8} {n : Nat} {more : List UInt8}

theorem isValidChar_toNat (c : Char) : c.toNat < 0xD800 ∨ 0xDFFF < c.toNat ∧ c.toNat < 0x110000 :=
  c.valid

theorem utf8EncodeChar_eq (c : Char) : String.utf8EncodeChar c =
    UInt8.ofNat (leadByte c.toNat) :: tailBytes (tailLength c.toNat) c.toNat := by
  have hvalid := isValidChar_toNat c
  have hval : c.val.toNat = c.toNat := rfl
  unfold String.utf8EncodeChar leadByte tailLength
  simp only [hval]
  by_cases h1 : c.toNat < 0x80
  · rw [if_pos (by omega), if_pos h1]
    simp [leadMark, tailBytes]
  by_cases h2 : c.toNat < 0x800
  · rw [if_neg (by omega), if_pos (by omega), if_neg h1, if_pos h2, Nat.mod_eq_of_lt (by omega)]
    simp [leadMark, tailBytes, Nat.add_comm]
  by_cases h3 : c.toNat < 0x10000
  · rw [if_neg (by omega), if_neg (by omega), if_pos (by omega), if_neg h1, if_neg h2, if_pos h3,
      Nat.mod_eq_of_lt (by omega)]
    simp [leadMark, tailBytes, Nat.add_comm]
  · rw [if_neg (by omega), if_neg (by omega), if_neg (by omega), if_neg h1, if_neg h2, if_neg h3,
      Nat.mod_eq_of_lt (by omega)]
    simp [leadMark, tailBytes, Nat.add_comm]

/-- The first byte tells the number of bytes that follow: four ranges do not meet, and some bytes
are in none of them. -/
theorem leadByte_cases (h : n < 0x110000) :
    tailLength n = 0 ∧ leadByte n = n ∧ n < 0x80 ∨
      tailLength n = 1 ∧ leadByte n = 0xC0 + n / 64 ∧ 0x80 ≤ n ∧ n < 0x800 ∨
      tailLength n = 2 ∧ leadByte n = 0xE0 + n / 4096 ∧ 0x800 ≤ n ∧ n < 0x10000 ∨
      tailLength n = 3 ∧ leadByte n = 0xF0 + n / 262144 ∧ 0x10000 ≤ n := by
  unfold leadByte tailLength
  split
  · exact .inl ⟨rfl, by simp [leadMark], by omega⟩
  split
  · exact .inr (.inl ⟨rfl, by simp [leadMark], by omega⟩)
  split
  · exact .inr (.inr (.inl ⟨rfl, by simp [leadMark], by omega⟩))
  · exact .inr (.inr (.inr ⟨rfl, by simp [leadMark], by omega⟩))

theorem utf8EncodeChar_eq_cons_iff {c : Char} : String.utf8EncodeChar c = b :: more ↔
    b.toNat = leadByte c.toNat ∧ more = tailBytes (tailLength c.toNat) c.toNat := by
  have hlt : leadByte c.toNat < 256 := by
    have hvalid := isValidChar_toNat c
    have := leadByte_cases (n := c.toNat) (by omega)
    omega
  rw [utf8EncodeChar_eq, List.cons.injEq, ← UInt8.toNat_inj, UInt8.toNat_ofNat_of_lt' hlt]
  exact and_congr eq_comm eq_comm

end Spelling

/-! ## Characters that are not finished -/

/-- The unfinished character after one more byte that goes on with it. -/
def Unfinished.next (u : Unfinished) (b : UInt8) : Unfinished :=
  ⟨u.missing - 1, 0x80, 0xBF, u.code * 64 + (b.toNat - 0x80)⟩

/-- The bytes finish the character, which then has the given code point. -/
def Unfinished.Completes : Unfinished → List UInt8 → Nat → Prop
  | _, [], _ => False
  | u, b :: more, n => (u.low ≤ b ∧ b ≤ u.high) ∧
    if u.missing ≤ 1 then more = [] ∧ n = u.code * 64 + (b.toNat - 0x80)
    else (u.next b).Completes more n

/-- What is kept of an unfinished character tells what can follow the bytes read: the bytes that
finish it and no others, and always some. -/
structure Unfinished.Follows (u : Unfinished) (read : List UInt8) : Prop where
  ne_nil : read ≠ []
  low_le_high : u.low ≤ u.high
  unspelled : ∀ c, ¬ String.utf8EncodeChar c <+: read
  spelled_iff : ∀ c more, String.utf8EncodeChar c = read ++ more ↔ u.Completes more c.toNat
  valid : ∀ more n, u.Completes more n → n.isValidChar

section Completion

variable {u : Unfinished} {b low high : UInt8} {code count m n : Nat} {more read rest : List UInt8}

/-- A byte after the first stands for six bits. -/
theorem six_bits_iff (hlow : 0x80 ≤ low) (hhigh : high ≤ 0xBF) :
    (low ≤ b ∧ b ≤ high) ∧ m = code * 64 + (b.toNat - 0x80) ↔
      b = UInt8.ofNat (0x80 + m % 64) ∧ m / 64 = code ∧
        low.toNat ≤ 0x80 + m % 64 ∧ 0x80 + m % 64 ≤ high.toNat := by
  have hlt : 0x80 + m % 64 < 256 := by omega
  rw [← UInt8.toNat_inj, UInt8.toNat_ofNat_of_lt' hlt, UInt8.le_iff_toNat_le, UInt8.le_iff_toNat_le]
  rw [UInt8.le_iff_toNat_le, show (0x80 : UInt8).toNat = 128 from rfl] at hlow
  rw [UInt8.le_iff_toNat_le, show (0xBF : UInt8).toNat = 191 from rfl] at hhigh
  omega

/-- One byte is for the next six bits, and the bytes after it are for the rest. -/
theorem completes_cons_iff : Unfinished.Completes ⟨count + 1, low, high, code⟩ (b :: more) n ↔
    ((low ≤ b ∧ b ≤ high) ∧ n / 64 ^ count = code * 64 + (b.toNat - 0x80)) ∧
      more = tailBytes count n := by
  rw [and_assoc]
  induction count generalizing low high code b more with
  | zero =>
    rw [Unfinished.Completes, if_pos (Nat.le_refl 1), Nat.pow_zero, Nat.div_one]
    exact and_congr_right fun _ => and_comm
  | succ count ih =>
    rw [Unfinished.Completes, if_neg (by simp)]
    refine and_congr_right fun _ => ?_
    cases more with
    | nil => simp [Unfinished.Completes, tailBytes]
    | cons b' more =>
      have hbounds : (0x80 : UInt8).toNat ≤ 0x80 + n / 64 ^ count % 64 ∧
          0x80 + n / 64 ^ count % 64 ≤ (0xBF : UInt8).toNat := by
        rw [show (0x80 : UInt8).toNat = 128 from rfl, show (0xBF : UInt8).toNat = 191 from rfl]
        omega
      show Unfinished.Completes ⟨count + 1, 0x80, 0xBF, code * 64 + (b.toNat - 0x80)⟩ _ n ↔ _
      rw [ih, ← and_assoc, six_bits_iff (by decide) (by decide), tailBytes, List.cons.injEq,
        Nat.pow_succ, ← Nat.div_div_eq_div_mul]
      tauto

/-- An unfinished character is finished by the rest of its bits, as long as the next of them lie in
the bounds. -/
theorem completes_iff (hlow : 0x80 ≤ low) (hhigh : high ≤ 0xBF) :
    Unfinished.Completes ⟨count + 1, low, high, code⟩ more n ↔
      more = tailBytes (count + 1) n ∧ n / 64 ^ (count + 1) = code ∧
        low.toNat ≤ 0x80 + n / 64 ^ count % 64 ∧ 0x80 + n / 64 ^ count % 64 ≤ high.toNat := by
  cases more with
  | nil => simp [Unfinished.Completes, tailBytes]
  | cons b more =>
    rw [completes_cons_iff, six_bits_iff hlow hhigh, tailBytes, List.cons.injEq, Nat.pow_succ,
      ← Nat.div_div_eq_div_mul]
    tauto

theorem Unfinished.Completes.exists_cons (h : u.Completes more n) :
    ∃ b rest, more = b :: rest ∧ u.low ≤ b ∧ b ≤ u.high := by
  cases more with
  | nil => exact h.elim
  | cons b rest => exact ⟨b, rest, rfl, h.1⟩

theorem Unfinished.exists_completes (u : Unfinished) (h : u.low ≤ u.high) :
    ∃ more n, u.Completes more n := by
  induction hmissing : u.missing generalizing u with
  | zero => exact ⟨[u.low], _, ⟨UInt8.le_refl _, h⟩, by rw [if_pos (by omega)]; exact ⟨rfl, rfl⟩⟩
  | succ count ih =>
    by_cases hlast : u.missing ≤ 1
    · exact ⟨[u.low], _, ⟨UInt8.le_refl _, h⟩, by rw [if_pos hlast]; exact ⟨rfl, rfl⟩⟩
    · have hnext : (u.next u.low).missing = count := by
        show u.missing - 1 = count
        omega
      obtain ⟨more, n, hmore⟩ := ih (u.next u.low) (by show (0x80 : UInt8) ≤ 0xBF; decide) hnext
      exact ⟨u.low :: more, n, ⟨UInt8.le_refl _, h⟩, by rw [if_neg hlast]; exact hmore⟩

theorem toNat_ofNat_of_valid (h : n.isValidChar) : (Char.ofNat n).toNat = n := by
  rw [toNat_ofNat, if_pos h]

namespace Unfinished.Follows

theorem begins (h : u.Follows read) : Begins read := by
  obtain ⟨more, n, hmore⟩ := u.exists_completes h.low_le_high
  refine ⟨Char.ofNat n, more, ((h.spelled_iff _ more).mpr ?_).symm⟩
  rwa [toNat_ofNat_of_valid (h.valid more n hmore)]

/-- Where the next byte does not go on with the character, no longer part begins a spelling. -/
theorem not_begins (h : u.Follows read) (hrest : ∀ b ∈ rest.head?, ¬ (u.low ≤ b ∧ b ≤ u.high))
    (hne : more ≠ []) (hmore : more <+: rest) : ¬ Begins (read ++ more) := by
  rintro ⟨c, after, hspelled⟩
  rw [List.append_assoc] at hspelled
  obtain ⟨b, _, hcons, hbounds⟩ := ((h.spelled_iff c _).mp hspelled.symm).exists_cons
  obtain ⟨b', more, rfl⟩ := List.exists_cons_of_ne_nil hne
  obtain ⟨after', rfl⟩ := hmore
  obtain rfl : b' = b := (List.cons.inj hcons).1
  exact hrest b' rfl hbounds

/-- What has been read is given up as a whole when it cannot go on. -/
theorem isIllFormedPart (h : u.Follows read)
    (hrest : ∀ b ∈ rest.head?, ¬ (u.low ≤ b ∧ b ≤ u.high)) :
    IsIllFormedPart read (read ++ rest) where
  isPrefix := List.prefix_append read rest
  ne_nil := h.ne_nil
  unspelled c hc := by
    rcases List.prefix_or_prefix_of_prefix hc (List.prefix_append read rest) with hin | hout
    · exact h.unspelled c hin
    · obtain ⟨more, hmore⟩ := hout
      by_cases hne : more = []
      · subst hne
        exact h.unspelled c ⟨[], by rw [← hmore, List.append_nil, List.append_nil]⟩
      · rw [← hmore, List.prefix_append_right_inj] at hc
        exact h.not_begins hrest hne hc ⟨c, hmore ▸ List.prefix_rfl⟩
  begins := .inl h.begins
  longest longer hlonger hbegins := by
    by_contra hlt
    obtain ⟨more, rfl⟩ := List.prefix_of_prefix_length_le (List.prefix_append read rest) hlonger
      (by omega)
    rw [List.prefix_append_right_inj] at hlonger
    refine h.not_begins hrest ?_ hlonger hbegins
    rintro rfl
    simp at hlt

/-- The last byte finishes the character. -/
theorem utf8EncodeChar_last (h : u.Follows read) (hb : u.low ≤ b ∧ b ≤ u.high)
    (hlast : u.missing ≤ 1) :
    String.utf8EncodeChar (Char.ofNat (u.code * 64 + (b.toNat - 0x80))) = read ++ [b] := by
  have hcompletes : u.Completes [b] (u.code * 64 + (b.toNat - 0x80)) := by
    refine ⟨hb, ?_⟩
    rw [if_pos hlast]
    exact ⟨rfl, rfl⟩
  rw [h.spelled_iff, toNat_ofNat_of_valid (h.valid _ _ hcompletes)]
  exact hcompletes

/-- Any other byte leaves a character that is not finished. -/
theorem next (h : u.Follows read) (hb : u.low ≤ b ∧ b ≤ u.high) (hlast : ¬ u.missing ≤ 1) :
    (u.next b).Follows (read ++ [b]) := by
  have hcompletes : ∀ more n, u.Completes (b :: more) n ↔ (u.next b).Completes more n := by
    intro more n
    rw [Completes, if_neg hlast]
    exact and_iff_right hb
  have hspelled : ∀ c more, String.utf8EncodeChar c = read ++ [b] ++ more ↔
      (u.next b).Completes more c.toNat := by
    intro c more
    rw [List.append_assoc, List.singleton_append, h.spelled_iff, hcompletes]
  refine ⟨by simp, by show (0x80 : UInt8) ≤ 0xBF; decide, fun c hc => ?_, hspelled,
    fun more n hmore => h.valid _ n ((hcompletes more n).mpr hmore)⟩
  rcases List.prefix_concat_iff.mp hc with heq | hin
  · rw [← List.append_nil (read ++ [b]), hspelled] at heq
    exact heq
  · exact h.unspelled c hin

end Unfinished.Follows

/-! ## First bytes -/

/-- After a first byte whose bounds for the next one let exactly the characters through that begin
with it. -/
theorem follows_lead (hlow : 0x80 ≤ low) (hhigh : high ≤ 0xBF) (hle : low ≤ high)
    (hof : ∀ n, n.isValidChar → b.toNat = leadByte n →
      tailLength n = count + 1 ∧ n / 64 ^ (count + 1) = code ∧
        low.toNat ≤ 0x80 + n / 64 ^ count % 64 ∧ 0x80 + n / 64 ^ count % 64 ≤ high.toNat)
    (hto : ∀ n, n / 64 ^ (count + 1) = code → low.toNat ≤ 0x80 + n / 64 ^ count % 64 →
      0x80 + n / 64 ^ count % 64 ≤ high.toNat → n.isValidChar ∧ b.toNat = leadByte n) :
    Unfinished.Follows ⟨count + 1, low, high, code⟩ [b] := by
  have hspelled : ∀ c more, String.utf8EncodeChar c = [b] ++ more ↔
      Unfinished.Completes ⟨count + 1, low, high, code⟩ more c.toNat := by
    intro c more
    rw [completes_iff hlow hhigh, List.singleton_append, utf8EncodeChar_eq_cons_iff]
    constructor
    · rintro ⟨hb, hmore⟩
      obtain ⟨htail, hbits⟩ := hof _ (isValidChar_toNat c) hb
      rw [htail] at hmore
      exact ⟨hmore, hbits⟩
    · rintro ⟨hmore, hcode, hbits⟩
      obtain ⟨hvalid, hb⟩ := hto _ hcode hbits.1 hbits.2
      rw [(hof _ hvalid hb).1]
      exact ⟨hb, hmore⟩
  refine ⟨by simp, hle, fun c hc => ?_, hspelled, fun more n hmore => ?_⟩
  · rw [← List.nil_append [b]] at hc
    rcases List.prefix_concat_iff.mp hc with heq | hnil
    · exact (hspelled c []).mp heq
    · exact String.utf8EncodeChar_ne_nil (List.prefix_nil.mp hnil)
  · obtain ⟨-, hcode, hbits⟩ := (completes_iff hlow hhigh).mp hmore
    exact (hto n hcode hbits.1 hbits.2).1

/-- A bound that is special after one first byte, in numbers. -/
theorem bound_cases (lead special usual : UInt8) :
    b.toNat = lead.toNat ∧ (if b = lead then special else usual).toNat = special.toNat ∨
      b.toNat ≠ lead.toNat ∧ (if b = lead then special else usual).toNat = usual.toNat := by
  by_cases h : b = lead
  · rw [if_pos h]
    exact .inl ⟨congrArg UInt8.toNat h, rfl⟩
  · rw [if_neg h]
    exact .inr ⟨fun heq => h (UInt8.toNat_inj.mp heq), rfl⟩

theorem follows_two (hb : 0xC2 ≤ b.toNat) (hb' : b.toNat < 0xE0) :
    Unfinished.Follows ⟨1, 0x80, 0xBF, b.toNat - 0xC0⟩ [b] := by
  refine follows_lead (by decide) (by decide) (by decide) (fun n hvalid hlead => ?_)
    fun n hcode _ _ => ?_
  · have := leadByte_cases (n := n) (by omega)
    simp only [UInt8.reduceToNat]
    omega
  · have := leadByte_cases (n := n) (by omega)
    omega

theorem follows_three (hb : 0xE0 ≤ b.toNat) (hb' : b.toNat < 0xF0) :
    Unfinished.Follows ⟨2, if b = 0xE0 then 0xA0 else 0x80, if b = 0xED then 0x9F else 0xBF,
      b.toNat - 0xE0⟩ [b] := by
  have hlow := bound_cases (b := b) 0xE0 0xA0 0x80
  have hhigh := bound_cases (b := b) 0xED 0x9F 0xBF
  simp only [UInt8.reduceToNat] at hlow hhigh
  refine follows_lead ?_ ?_ ?_ (fun n hvalid hlead => ?_) fun n hcode _ _ => ?_
  · simp only [UInt8.le_iff_toNat_le, UInt8.reduceToNat]
    omega
  · simp only [UInt8.le_iff_toNat_le, UInt8.reduceToNat]
    omega
  · rw [UInt8.le_iff_toNat_le]
    omega
  · have := leadByte_cases (n := n) (by omega)
    omega
  · have := leadByte_cases (n := n) (by omega)
    omega

theorem follows_four (hb : 0xF0 ≤ b.toNat) (hb' : b.toNat < 0xF5) :
    Unfinished.Follows ⟨3, if b = 0xF0 then 0x90 else 0x80, if b = 0xF4 then 0x8F else 0xBF,
      b.toNat - 0xF0⟩ [b] := by
  have hlow := bound_cases (b := b) 0xF0 0x90 0x80
  have hhigh := bound_cases (b := b) 0xF4 0x8F 0xBF
  simp only [UInt8.reduceToNat] at hlow hhigh
  refine follows_lead ?_ ?_ ?_ (fun n hvalid hlead => ?_) fun n hcode _ _ => ?_
  · simp only [UInt8.le_iff_toNat_le, UInt8.reduceToNat]
    omega
  · simp only [UInt8.le_iff_toNat_le, UInt8.reduceToNat]
    omega
  · rw [UInt8.le_iff_toNat_le]
    omega
  · have := leadByte_cases (n := n) (by omega)
    omega
  · have := leadByte_cases (n := n) (by omega)
    omega

theorem utf8EncodeChar_ofNat (hb : b.toNat < 0x80) :
    String.utf8EncodeChar (Char.ofNat b.toNat) = [b] := by
  rw [utf8EncodeChar_eq_cons_iff, toNat_ofNat_of_valid (.inl (by omega))]
  simp [leadByte, tailLength, hb, leadMark, tailBytes]

/-- A byte that no spelling begins with is an ill-formed part. -/
theorem isIllFormedPart_singleton (hb : 0x80 ≤ b.toNat ∧ b.toNat < 0xC2 ∨ 0xF5 ≤ b.toNat) :
    IsIllFormedPart [b] ([b] ++ rest) := by
  have hunspelled : ∀ c more, String.utf8EncodeChar c ≠ b :: more := by
    intro c more
    rw [Ne, utf8EncodeChar_eq_cons_iff]
    rintro ⟨hlead, -⟩
    have hvalid := isValidChar_toNat c
    have := leadByte_cases (n := c.toNat) (by omega)
    omega
  refine ⟨List.prefix_append _ _, by simp, fun c hc => ?_, .inr rfl,
    fun longer hlonger hbegins => ?_⟩
  · rcases List.prefix_cons_iff.mp hc with hnil | ⟨more, hmore, -⟩
    · exact String.utf8EncodeChar_ne_nil hnil
    · exact hunspelled c more hmore
  · rcases List.prefix_cons_iff.mp hlonger with rfl | ⟨more, rfl, -⟩
    · exact Nat.zero_le 1
    · obtain ⟨c, after, hc⟩ := hbegins
      exact absurd hc.symm (hunspelled c _)

/-! ## Decoding byte by byte -/

/-- What is kept of the bytes read since the last character or ill-formed part. -/
def Keeps : Option Unfinished → List UInt8 → Prop
  | none, read => read = []
  | some u, read => u.Follows read

theorem beginCharacter_keeps (b : UInt8) : ∃ read, Keeps (beginCharacter b).2 read ∧
    ∀ rest decoded, Decodes (read ++ rest) decoded →
      Decodes (b :: rest) ((beginCharacter b).1 ++ decoded) := by
  unfold beginCharacter
  split
  · next hone =>
    refine ⟨[], rfl, fun rest decoded h => ?_⟩
    rw [← List.singleton_append (x := b), ← utf8EncodeChar_ofNat hone]
    exact .character _ h
  next hone =>
  split
  · next htwo =>
    refine ⟨[], rfl, fun rest decoded h => ?_⟩
    exact .illFormed (isIllFormedPart_singleton (.inl ⟨UInt8.not_lt.mp hone, htwo⟩)) h
  next htwo =>
  split
  · next hthree =>
    exact ⟨[b], follows_two (UInt8.not_lt.mp htwo) hthree, fun _ _ h => h⟩
  next hthree =>
  split
  · next hfour =>
    exact ⟨[b], follows_three (UInt8.not_lt.mp hthree) hfour, fun _ _ h => h⟩
  next hfour =>
  split
  · next hfive =>
    exact ⟨[b], follows_four (UInt8.not_lt.mp hfour) hfive, fun _ _ h => h⟩
  · next hfive =>
    refine ⟨[], rfl, fun rest decoded h => ?_⟩
    exact .illFormed (isIllFormedPart_singleton (.inr (UInt8.not_lt.mp hfive))) h

/-- One byte decodes what was kept, as far as it is finished or given up, and goes on with the
rest. -/
theorem takeByte_keeps {state : Option Unfinished} (h : Keeps state read) (b : UInt8) :
    ∃ read', Keeps (takeByte state b).2 read' ∧ ∀ rest decoded, Decodes (read' ++ rest) decoded →
      Decodes (read ++ b :: rest) ((takeByte state b).1 ++ decoded) := by
  cases state with
  | none =>
    obtain rfl : read = [] := h
    exact beginCharacter_keeps b
  | some u =>
    have hu : u.Follows read := h
    unfold takeByte
    dsimp only
    split
    · next hb =>
      split
      · next hlast =>
        refine ⟨[], rfl, fun rest decoded hrest => ?_⟩
        rw [List.append_cons, ← hu.utf8EncodeChar_last hb hlast]
        exact .character _ hrest
      · next hlast =>
        refine ⟨read ++ [b], hu.next hb hlast, fun rest decoded hrest => ?_⟩
        rwa [List.append_cons]
    · next hb =>
      obtain ⟨read', hkeeps, hbegin⟩ := beginCharacter_keeps b
      refine ⟨read', hkeeps, fun rest decoded hrest => ?_⟩
      have hpart : IsIllFormedPart read (read ++ b :: rest) :=
        hu.isIllFormedPart fun b' hb' => by cases hb'; exact hb
      exact .illFormed hpart (hbegin rest decoded hrest)

theorem decodes_decodeAfter {state : Option Unfinished} {bytes : List UInt8}
    (h : Keeps state read) : Decodes (read ++ bytes) (decodeAfter state bytes) := by
  induction bytes generalizing state read with
  | nil =>
    cases state with
    | none =>
      obtain rfl : read = [] := h
      exact .nil
    | some u =>
      have hu : u.Follows read := h
      exact .illFormed (hu.isIllFormedPart fun b hb => by cases hb) .nil
  | cons b rest ih =>
    obtain ⟨read', hkeeps, htake⟩ := takeByte_keeps h b
    rw [decodeAfter_cons]
    exact htake rest _ (ih hkeeps)

theorem decodes_decode (bytes : List UInt8) : Decodes bytes (decode bytes) := by
  have hkeeps : Keeps none [] := rfl
  exact decodes_decodeAfter hkeeps

end Completion

/-! ## There is one decoding -/

section Unique

variable {c c' : Char} {part part' bytes rest rest' : List UInt8}

/-- No spelling begins another. -/
theorem utf8EncodeChar_append_inj
    (h : String.utf8EncodeChar c ++ rest = String.utf8EncodeChar c' ++ rest') :
    c = c' ∧ rest = rest' := by
  have hread := congrArg (fun bytes => ByteArray.utf8DecodeChar? bytes.toByteArray 0) h
  simp only [List.toByteArray_append, ByteArray.utf8DecodeChar?_utf8EncodeChar_append,
    Option.some.injEq] at hread
  subst hread
  exact ⟨rfl, List.append_cancel_left h⟩

theorem IsIllFormedPart.length_le (h : IsIllFormedPart part bytes)
    (h' : IsIllFormedPart part' bytes) : part.length ≤ part'.length := by
  rcases h.begins with hbegins | hone
  · exact h'.longest part h.isPrefix hbegins
  · rw [hone]
    exact List.length_pos_iff.mpr h'.ne_nil

theorem IsIllFormedPart.unique (h : IsIllFormedPart part bytes)
    (h' : IsIllFormedPart part' bytes) : part = part' :=
  (List.prefix_of_prefix_length_le h.isPrefix h'.isPrefix (h.length_le h')).eq_of_length
    (Nat.le_antisymm (h.length_le h') (h'.length_le h))

theorem Decodes.unique {decoded decoded' : List (Option Char)} (h : Decodes bytes decoded)
    (h' : Decodes bytes decoded') : decoded = decoded' := by
  induction h generalizing decoded' with
  | nil =>
    generalize hbytes : ([] : List UInt8) = bytes at h'
    cases h' with
    | nil => rfl
    | character c _ =>
      exact absurd (List.append_eq_nil_iff.mp hbytes.symm).1 String.utf8EncodeChar_ne_nil
    | illFormed hpart _ => exact absurd (List.append_eq_nil_iff.mp hbytes.symm).1 hpart.ne_nil
  | @character c rest decoded _ ih =>
    generalize hbytes : String.utf8EncodeChar c ++ rest = bytes at h'
    cases h' with
    | nil => exact absurd (List.append_eq_nil_iff.mp hbytes).1 String.utf8EncodeChar_ne_nil
    | character c' hrest =>
      obtain ⟨rfl, rfl⟩ := utf8EncodeChar_append_inj hbytes
      rw [ih hrest]
    | illFormed hpart _ =>
      exact absurd (hbytes ▸ List.prefix_append _ _) (hpart.unspelled c)
  | @illFormed part rest decoded hpart _ ih =>
    generalize hbytes : part ++ rest = bytes at h' hpart
    cases h' with
    | nil => exact absurd (List.append_eq_nil_iff.mp hbytes).1 hpart.ne_nil
    | character c' _ => exact absurd (List.prefix_append _ _) (hpart.unspelled c')
    | illFormed hpart' hrest =>
      obtain rfl := hpart.unique hpart'
      rw [ih (List.append_cancel_left hbytes ▸ hrest)]

/-- The decoder finds the characters and ill-formed parts that there are. -/
theorem decodes_iff {decoded : List (Option Char)} :
    Decodes bytes decoded ↔ decoded = decode bytes :=
  ⟨fun h => h.unique (decodes_decode bytes), fun h => h ▸ decodes_decode bytes⟩

example : decode [0x61, 0xF0, 0x9F, 0x92, 0x41, 0xED, 0xA0, 0xC3, 0xA9] =
    [some 'a', none, some 'A', none, none, some 'é'] := by decide

/-- What is spelled out is read again. -/
theorem decode_flatMap_utf8EncodeChar (cs : List Char) :
    decode (cs.flatMap String.utf8EncodeChar) = cs.map some := by
  have hspelled : Decodes (cs.flatMap String.utf8EncodeChar) (cs.map some) := by
    induction cs with
    | nil => exact .nil
    | cons c cs ih => exact .character c ih
  exact (decodes_iff.mp hspelled).symm

end Unique

end FuzzyRank.Text
