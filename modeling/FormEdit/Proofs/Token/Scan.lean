import FormEdit.Proofs.Token.Reach
import Mathlib.Data.List.Basic

set_option autoImplicit false

/-! # What scanning gives

Scanning comes to a run of tokens exactly when the run passes a local test: each token starts where
the one before it ends, is one token when it is scanned by itself, and does not go on over the
character that comes next (`tokenize_eq_ok_iff`). So tokens may be cut out of a source and put
together anew as long as the test holds at the places of the cuts. -/

namespace FormEdit

namespace Token

/-! ## Tokens by themselves -/

/-- Whether the text of a token is one token of its kind when nothing stands behind it. -/
def Whole (t : Token) : Prop := ∃ c s, t.text = c :: s ∧ reach c s = .ok (t.kind, s.length)

/-- Whether a token goes on over the character `x` when that comes next. -/
def absorbs (t : Token) (x : Char) : Bool :=
  match t.text with
  | [] => false
  | c :: s =>
    match reach c (s ++ [x]) with
    | .ok (_, n) => s.length < n
    | .error _ => true

/-- Whether a token stays as it is before the text `r`. -/
def StandsBefore (t : Token) (r : List Char) : Prop := ∀ x ∈ r.head?, t.absorbs x = false

theorem Whole.text_ne_nil {t : Token} (h : t.Whole) : t.text ≠ [] := by
  obtain ⟨c, s, ht, -⟩ := h
  simp [ht]

theorem standsBefore_nil (t : Token) : t.StandsBefore [] := by simp [StandsBefore]

/-- What a token stands before may be longer. -/
theorem standsBefore_of_append {t : Token} {r r' : List Char} (h : t.StandsBefore (r ++ r')) :
    t.StandsBefore r := by
  cases r with
  | nil => exact standsBefore_nil t
  | cons c r => exact h

/-- A token reaches over its own text only when it stays as it is before what follows. -/
theorem reach_append_eq_iff {t : Token} {c : Char} {s : List Char} (ht : t.text = c :: s)
    (r : List Char) :
    reach c (s ++ r) = .ok (t.kind, s.length) ↔ t.Whole ∧ t.StandsBefore r := by
  have hset := settled_reach c
  constructor
  · intro h
    refine ⟨⟨c, s, ht, hset.of_append h (by omega)⟩, fun x hx => ?_⟩
    obtain ⟨r', rfl⟩ : ∃ r', r = x :: r' := by
      cases r with
      | nil => cases hx
      | cons y r' => exact ⟨r', by simpa using hx⟩
    have hx : reach c (s ++ [x]) = .ok (t.kind, s.length) := by
      refine hset.of_append (r := r') (by simpa using h) ?_
      simp only [List.length_append]
      omega
    simp [absorbs, ht, hx]
  · rintro ⟨⟨c', s', ht', hw⟩, hr⟩
    rw [ht] at ht'
    cases ht'
    cases r with
    | nil => simpa using hw
    | cons x r =>
      -- One character more decides it, and it decides for the same token.
      have hx := hr x rfl
      simp only [absorbs, ht] at hx
      split at hx
      · next k n hk =>
        have hn : n ≤ s.length := by simpa using hx
        have hs := hset.of_append hk (by omega)
        rw [hw] at hs
        cases hs
        have := hset.append hk (by simp) r
        simpa using this
      · cases hx

/-! ## Runs of tokens -/

/-- Whether a run of tokens is what scanning its text from the offset `o` on comes to: each token
    starts where the one before it ends, is one token by itself and stays as it is before the
    rest. -/
def IsScan : Int → List Token → Prop
  | _, [] => True
  | o, t :: ts =>
    t.offset = o ∧ t.Whole ∧ t.StandsBefore (textOf ts) ∧ IsScan (o + t.text.length) ts

theorem IsScan.whole {o : Int} {ts : List Token} (h : IsScan o ts) : ∀ t ∈ ts, t.Whole := by
  induction ts generalizing o with
  | nil => simp
  | cons t ts ih =>
    obtain ⟨-, hw, -, hs⟩ := h
    intro u hu
    rcases List.mem_cons.1 hu with rfl | hu
    · exact hw
    · exact ih hs u hu

/-- The offset behind a run is that behind the rest of it. -/
theorem offset_textOf_cons (o : Int) (t : Token) (ts : List Token) :
    o + ((textOf (t :: ts)).length : Int) = o + t.text.length + (textOf ts).length := by
  simp only [textOf_cons, List.length_append]
  omega

/-- Tokens with a text hide what stands behind them. -/
theorem standsBefore_textOf_append {o : Int} {ts : List Token} (hts : IsScan o ts) (hne : ts ≠ [])
    (t : Token) (r : List Char) :
    t.StandsBefore (textOf ts ++ r) ↔ t.StandsBefore (textOf ts) := by
  cases ts with
  | nil => exact absurd rfl hne
  | cons u us =>
    obtain ⟨c, s, hu, -⟩ := hts.2.1
    simp [StandsBefore, hu]

theorem isScan_append {o : Int} {ts us : List Token} :
    IsScan o (ts ++ us) ↔ IsScan o ts ∧ IsScan (o + (textOf ts).length) us ∧
      ∀ t ∈ ts.getLast?, t.StandsBefore (textOf us) := by
  induction ts generalizing o with
  | nil => simp [IsScan]
  | cons t ts ih =>
    rw [List.cons_append, IsScan, IsScan, ih, textOf_append, offset_textOf_cons]
    -- The token `t` meets `us` only when it is the last one; else the tokens behind it hide `us`.
    cases ts with
    | nil =>
      simp only [textOf_nil, List.nil_append, List.getLast?_singleton, List.getLast?_nil]
      constructor
      · rintro ⟨ho, hw, hb, -, hs, -⟩
        exact ⟨⟨ho, hw, standsBefore_nil t, trivial⟩, hs, fun u hu => by cases hu; exact hb⟩
      · rintro ⟨⟨ho, hw, -, -⟩, hs, hb⟩
        exact ⟨ho, hw, hb t rfl, trivial, hs, fun u hu => by cases hu⟩
    | cons u us' =>
      rw [List.getLast?_cons_cons]
      constructor
      · rintro ⟨ho, hw, hb, hts, hs⟩
        exact ⟨⟨ho, hw, (standsBefore_textOf_append hts (by simp) t _).1 hb, hts⟩, hs⟩
      · rintro ⟨⟨ho, hw, hb, hts⟩, hs⟩
        exact ⟨ho, hw, (standsBefore_textOf_append hts (by simp) t _).2 hb, hts, hs⟩

/-- A run that is cut out of a scan is a scan from behind the text of the tokens before it. -/
theorem IsScan.of_infix {o : Int} {us ts vs : List Token} (h : IsScan o (us ++ ts ++ vs)) :
    IsScan (o + (textOf us).length) ts :=
  (isScan_append.1 (isScan_append.1 h).1).2.1

/-! ## Scanning gives back a run -/

theorem scanFrom_cons {c : Char} {r : List Char} {k : TokenKind} {n : Nat}
    (h : reach c r = .ok (k, n)) (done : List Token) (o : Int) :
    scanFrom done o (c :: r) =
      scanFrom (⟨k, c :: r.take n, o⟩ :: done) (o + (c :: r.take n).length) (r.drop n) := by
  rw [scanFrom]
  simp only [h]

/-- Scanning reads the tokens of a run before a text that does not change the last of them. -/
theorem scanFrom_textOf_append {o : Int} {ts : List Token} {r : List Char} (h : IsScan o ts)
    (hr : ∀ t ∈ ts.getLast?, t.StandsBefore r) (done : List Token) :
    scanFrom done o (textOf ts ++ r) =
      scanFrom (ts.reverse ++ done) (o + (textOf ts).length) r := by
  induction ts generalizing o done with
  | nil => simp
  | cons t ts ih =>
    obtain ⟨ho, ⟨c, s, ht, hw⟩, hb, hs⟩ := h
    have hb : t.StandsBefore (textOf ts ++ r) := by
      cases ts with
      | nil => simpa using hr t rfl
      | cons u us => exact (standsBefore_textOf_append hs (by simp) t r).2 hb
    have hreach : reach c (s ++ (textOf ts ++ r)) = .ok (t.kind, s.length) :=
      (reach_append_eq_iff ht _).2 ⟨⟨c, s, ht, hw⟩, hb⟩
    have htok : (⟨t.kind, c :: s, o⟩ : Token) = t := by
      rw [← ht, ← ho]
    have hr' : ∀ u ∈ ts.getLast?, u.StandsBefore r :=
      fun u hu => hr u (List.mem_getLast?_cons hu)
    rw [textOf_cons, List.append_assoc, ht, List.cons_append, scanFrom_cons hreach,
      List.take_left, List.drop_left, htok, ← ht, ih hs hr']
    simp [Int.add_assoc]

theorem scan_textOf {ts : List Token} (h : IsScan 0 ts) : scan (textOf ts) = ⟨ts, none⟩ := by
  have := scanFrom_textOf_append h (r := []) (fun t _ => standsBefore_nil t) []
  simpa [scan, scanFrom] using this

/-- Whether a scan stops before a text as it says: at the end, or before a literal that is left
    open. -/
def StopsBefore : Option OpenLiteral → List Char → Prop
  | none, r => r = []
  | some literal, r => ∃ c s, r = c :: s ∧ reach c s = .error literal

/-- A scan has read a run of tokens that makes up the front of a text and stays as it is before the
    rest, where the scan stops. -/
theorem exists_isScan_of_scanFrom {done vs : List Token} {o : Int} {s : List Char}
    {stop : Option OpenLiteral} (h : scanFrom done o s = ⟨vs, stop⟩) :
    ∃ ts r, vs = done.reverse ++ ts ∧ textOf ts ++ r = s ∧ IsScan o ts ∧
      (∀ t ∈ ts.getLast?, t.StandsBefore r) ∧ StopsBefore stop r := by
  fun_induction scanFrom done o s with
  | case1 done o =>
    cases h
    exact ⟨[], [], by simp, rfl, trivial, by simp, rfl⟩
  | case2 done o c r l hl =>
    cases h
    exact ⟨[], c :: r, by simp, rfl, trivial, by simp, c, r, rfl, hl⟩
  | case3 done o c r k n hk text ih =>
    obtain ⟨ts, r', rfl, htext, hts, hlast, hstop⟩ := ih h
    have hn : n ≤ r.length := by simpa using (settled_reach c).le hk
    have hlen : (r.take n).length = n := by rw [List.length_take]; omega
    -- The token was read with the rest behind it, so it is one by itself and stands before that.
    have hreach : reach c (r.take n ++ r.drop n) = .ok (k, (r.take n).length) := by
      rw [List.take_append_drop, hlen, hk]
    have hfirst := (reach_append_eq_iff (t := ⟨k, c :: r.take n, o⟩) rfl _).1 hreach
    rw [← htext] at hfirst
    refine ⟨⟨k, c :: r.take n, o⟩ :: ts, r', by simp [text], ?_,
      ⟨rfl, hfirst.1, standsBefore_of_append hfirst.2, hts⟩, ?_, hstop⟩
    · simp [htext]
    · cases ts with
      | nil =>
        rintro t ⟨⟩
        exact hfirst.2
      | cons u us =>
        rw [List.getLast?_cons_cons]
        exact hlast

/-- A scan that comes to the end of a text has read a run of tokens that makes up the text. -/
theorem isScan_of_scanFrom {done vs : List Token} {o : Int} {s : List Char}
    (h : scanFrom done o s = ⟨vs, none⟩) :
    ∃ ts, vs = done.reverse ++ ts ∧ textOf ts = s ∧ IsScan o ts := by
  obtain ⟨ts, r, hvs, htext, hts, -, rfl⟩ := exists_isScan_of_scanFrom h
  rw [List.append_nil] at htext
  exact ⟨ts, hvs, htext, hts⟩

/-- Where a scan stops a literal begins that is left open. -/
theorem exists_open_of_scanFrom {done vs : List Token} {o : Int} {s : List Char}
    {literal : OpenLiteral} (h : scanFrom done o s = ⟨vs, some literal⟩) :
    ∃ us c r, vs = done.reverse ++ us ∧ s = textOf us ++ c :: r ∧ reach c r = .error literal := by
  obtain ⟨us, -, hvs, htext, -, -, c, r, rfl, hopen⟩ := exists_isScan_of_scanFrom h
  exact ⟨us, c, r, hvs, htext.symm, hopen⟩

/-- The scan of a text that starts with a run starts with the run, when the run stays as it is before
    the rest. -/
theorem IsScan.exists_append {o : Int} {us ts : List Token} {r : List Char} (h : IsScan o us)
    (hr : ∀ t ∈ us.getLast?, t.StandsBefore r) (hts : IsScan o ts)
    (htext : textOf ts = textOf us ++ r) :
    ∃ vs, ts = us ++ vs ∧ textOf vs = r ∧ IsScan (o + (textOf us).length) vs := by
  have hscan := scanFrom_textOf_append hts (r := []) (fun t _ => standsBefore_nil t) []
  rw [List.append_nil, htext, scanFrom_textOf_append h hr, scanFrom, List.append_nil,
    List.append_nil, List.reverse_reverse] at hscan
  obtain ⟨vs, hvs, hvstext, hs⟩ := isScan_of_scanFrom hscan
  rw [List.reverse_reverse] at hvs
  exact ⟨vs, hvs, hvstext, hs⟩

end Token

open Token

/-- A source is cut into the one run of tokens that makes it up and passes the local test. -/
theorem tokenize_eq_ok_iff {source : List Char} {ts : List Token} :
    tokenize source = .ok ts ↔ textOf ts = source ∧ IsScan 0 ts := by
  constructor
  · intro h
    simp only [tokenize] at h
    split at h
    · next hstop =>
      cases h
      have hscan : scanFrom [] 0 source = ⟨(scan source).tokens, none⟩ := by
        rw [← hstop]
        rfl
      obtain ⟨us, hus, htext, hs⟩ := isScan_of_scanFrom hscan
      rw [List.reverse_nil, List.nil_append] at hus
      rw [hus]
      exact ⟨htext, hs⟩
    · cases h
  · rintro ⟨rfl, hs⟩
    simp [tokenize, scan_textOf hs]

end FormEdit
