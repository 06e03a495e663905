import FormEdit.Proofs.Bencode.Chunks
import FormEdit.Proofs.Bencode.Normal

set_option autoImplicit false

/-! # What messages are

Whatever bytes come, what a stream hands back are texts, bytes that are no text, whole numbers, and
lists and dictionaries of these, whose keys are texts (`isNormal_of_mem_feedAll`). This needs no
room for anything, unlike that a value which was read can be written again.

Bytes that each read as one message, one behind the other, hold these messages, and a stream that is
fed them in any chunks hands the messages back before any others (`exists_messages_of_decode`). -/

namespace FormEdit.Bencode

variable {place n : Nat} {b : UInt8} {r bs rest : List UInt8} {frames : List Frame} {p : Piece}
  {v : Value} {progress : Progress}

/-- Fields with distinct names and normal values. -/
structure NormalFields (fields : List (String × Value)) : Prop where
  distinct : (fields.map Prod.fst).Nodup
  values : ∀ f ∈ fields, f.2.IsNormal

/-- An open container that holds values in normal form. -/
def Frame.Normal : Frame → Prop
  | .list items => ∀ v ∈ items, v.IsNormal
  | .dict entries _ => ∃ fields, entries = fields.map (fun f => (.text f.1, f.2)) ∧
      NormalFields fields

def Piece.Normal : Piece → Prop
  | .value v => v.IsNormal
  | _ => True

def Progress.Normal : Progress → Prop
  | .whole v => v.IsNormal
  | .inside frames => ∀ f ∈ frames, f.Normal

theorem piece_normal (h : piece place b r = .ok (p, n)) : p.Normal := by
  unfold piece at h
  split_ifs at h with hint hdigit
  · split at h
    · cases h
    · split at h
      · cases h
      · next m hm =>
        cases h
        exact .int m
  · split at h
    · cases h
    · next digits behind hs =>
      split at h
      · cases h
      · next m hm =>
        split at h
        · cases h
        · cases h
          exact .ofBytes _
  all_goals
    cases h
    trivial

theorem NormalFields.insert {fields : List (String × Value)} (h : NormalFields fields) (k : String)
    (hv : v.IsNormal) :
    ∃ gs, Value.insert (fields.map fun f => (.text f.1, f.2)) (.text k) v =
      gs.map (fun f => (.text f.1, f.2)) ∧ NormalFields gs := by
  obtain ⟨gs, hgs, hdistinct, hmem⟩ := Value.exists_insert_fields h.distinct k v
  refine ⟨gs, hgs, hdistinct, fun g hg => ?_⟩
  rcases hmem g hg with hg | rfl
  · exact h.values g hg
  · exact hv

theorem deliver_normal (hv : v.IsNormal) (hf : ∀ f ∈ frames, f.Normal)
    (h : deliver v frames = .ok progress) : progress.Normal := by
  cases frames with
  | nil =>
    cases h
    exact hv
  | cons frame fs =>
    obtain ⟨hframe, hfs⟩ := List.forall_mem_cons.1 hf
    cases frame with
    | list items =>
      cases h
      exact List.forall_mem_cons.2 ⟨List.forall_mem_cons.2 ⟨hv, hframe⟩, hfs⟩
    | dict entries key =>
      obtain ⟨fields, rfl, hfields⟩ := hframe
      cases key with
      | some k =>
        cases h
        exact List.forall_mem_cons.2 ⟨hfields.insert k hv, hfs⟩
      | none =>
        -- A key is a text, or bytes that are read as one whatever they are.
        have hopen : ∀ k, (Frame.dict (fields.map fun f => (.text f.1, f.2)) (some k)).Normal :=
          fun k => ⟨fields, rfl, hfields⟩
        cases v with
        | text s =>
          cases h
          exact List.forall_mem_cons.2 ⟨hopen _, hfs⟩
        | bytes bs =>
          cases h
          exact List.forall_mem_cons.2 ⟨hopen _, hfs⟩
        | _ => cases h

theorem take_normal (hp : p.Normal) (hf : ∀ f ∈ frames, f.Normal)
    (h : take place p frames = .ok progress) : progress.Normal := by
  cases p with
  | value v => exact deliver_normal hp hf h
  | list =>
    cases h
    exact List.forall_mem_cons.2 ⟨by simp [Frame.Normal], hf⟩
  | dict =>
    cases h
    exact List.forall_mem_cons.2 ⟨⟨[], rfl, List.nodup_nil, by simp⟩, hf⟩
  | finish =>
    cases frames with
    | nil => cases h
    | cons frame fs =>
      obtain ⟨hframe, hfs⟩ := List.forall_mem_cons.1 hf
      cases frame with
      | list items =>
        have hitems : ∀ v ∈ items.reverse, v.IsNormal := fun v hv =>
          hframe v (List.mem_reverse.1 hv)
        exact deliver_normal (.list _ hitems) hfs h
      | dict entries key =>
        obtain ⟨fields, rfl, hfields⟩ := hframe
        cases key with
        | none => exact deliver_normal (.dict fields hfields.distinct hfields.values) hfs h
        | some k => cases h

theorem isNormal_of_readFrom (hf : ∀ f ∈ frames, f.Normal)
    (h : readFrom place frames bs = .done v rest) : v.IsNormal := by
  -- What the open containers hold is in normal form before each piece, and so it is behind it.
  fun_induction readFrom place frames bs with
  | case1 => cases h
  | case2 => cases h
  | case3 => cases h
  | case4 => cases h
  | case5 place frames b r p n hp v ht =>
    cases h
    exact take_normal (piece_normal hp) hf ht
  | case6 place frames b r p n hp frames' ht ih =>
    have hinside : Progress.Normal (.inside frames') := take_normal (piece_normal hp) hf ht
    exact ih hinside h

/-- Whole values at the front of bytes are in normal form. -/
theorem isNormal_of_mem_wholes : ∀ v ∈ (wholes bs).1, v.IsNormal := by
  fun_induction wholes bs with
  | case1 bs v rest h ih =>
    exact List.forall_mem_cons.2 ⟨isNormal_of_readFrom (by simp) h, ih⟩
  | case2 bs h => simp
  | case3 bs fault h => simp

/-- What a stream hands back is in normal form, whatever chunks it is fed. -/
theorem isNormal_of_mem_feedAll (s : Stream) (chunks : List (List UInt8)) :
    ∀ v ∈ (s.feedAll chunks).messages, v.IsNormal := by
  induction chunks generalizing s with
  | nil => simp [Stream.feedAll]
  | cons chunk chunks ih =>
    have hfeed := s.feed_eq chunk
    cases hf : faultIn (s.buffer ++ chunk) with
    | some f =>
      rw [hf] at hfeed
      rw [Stream.feedAll_of_error hfeed]
      simp
    | none =>
      rw [hf] at hfeed
      rw [Stream.feedAll_of_ok hfeed]
      exact List.forall_mem_append.2 ⟨isNormal_of_mem_wholes, ih _⟩

/-! ## Messages one behind the other -/

theorem read_of_decode (h : decode bs = .ok v) : read bs = .done v [] := by
  unfold decode at h
  split at h
  · cases h
  · cases h
  · next hread =>
    cases h
    exact hread
  · cases h

/-- Messages that are one behind the other are the whole values of their bytes. -/
theorem wholes_flatten {codes : List (List UInt8)} {messages : List Value}
    (h : codes.map decode = messages.map .ok) : wholes codes.flatten = (messages, []) := by
  induction codes generalizing messages with
  | nil =>
    obtain rfl : messages = [] := by simpa using h.symm
    exact wholes_nil
  | cons code codes ih =>
    cases messages with
    | nil => cases h
    | cons message messages =>
      obtain ⟨hcode, hcodes⟩ := List.cons.inj h
      have hread := read_append_of_done (read_of_decode hcode) codes.flatten
      rw [List.nil_append] at hread
      rw [List.flatten_cons, wholes_of_done hread, ih hcodes]

namespace Stream

variable {s : Stream} {cs ds : List (List UInt8)}

/-- Behind chunks without a fault a stream is fed on. -/
theorem messages_append (h : (s.feedAll cs).fault = none) (ds : List (List UInt8)) :
    (s.feedAll (cs ++ ds)).messages =
      (s.feedAll cs).messages ++ ((s.feedAll cs).stream.feedAll ds).messages := by
  induction cs generalizing s with
  | nil => rfl
  | cons c cs ih =>
    cases hfeed : s.feed c with
    | mk result t =>
      cases result with
      | error f =>
        rw [feedAll_of_error hfeed] at h
        cases h
      | ok vs =>
        rw [feedAll_of_ok hfeed] at h
        rw [List.cons_append, feedAll_of_ok hfeed, feedAll_of_ok hfeed, ih h, List.append_assoc]

/-- However the bytes of messages are cut into chunks, the messages are handed back, before those of
    any other chunks. -/
theorem exists_messages_of_decode {codes : List (List UInt8)} {messages : List Value}
    (h : codes.map decode = messages.map .ok) (hcs : cs.flatten = codes.flatten)
    (ds : List (List UInt8)) :
    ∃ more, (empty.feedAll (cs ++ ds)).messages = messages ++ more := by
  have hwholes := wholes_flatten h
  have hnone : faultIn codes.flatten = none := by
    rw [faultIn, hwholes, read_nil]
    rfl
  obtain ⟨hfault, hmessages, hlost⟩ := feedAll_spec empty read_nil cs
  have hbytes : empty.buffer ++ cs.flatten = codes.flatten := hcs
  rw [hbytes] at hfault hmessages
  rw [hnone] at hfault
  rw [(hlost hfault).1, List.append_nil, hwholes] at hmessages
  exact ⟨_, by rw [messages_append hfault, hmessages]⟩

end Stream

end FormEdit.Bencode
