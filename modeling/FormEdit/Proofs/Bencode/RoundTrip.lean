import FormEdit.Proofs.Bencode.Chunks
import FormEdit.Proofs.Bencode.Decoded
import FormEdit.Proofs.Bencode.ReadBack

set_option autoImplicit false

/-! # Writing and reading back

A value that bencode can hold is read back in normal form if it holds no surrogates
(`decode_of_encode`); values with one normal form are written alike, and no others are
(`encode_eq_iff`); and a value that was read is read back as it is (`decode_encode_of_decode`). In a
stream of written values every beginning holds the whole values that have come and bytes that are
incomplete (`exists_wholes_of_append`), so a stream that is fed in chunks hands back the values one
by one, however it is cut (`feedAll_of_append`).

A value that was read holds no surrogates, so no character of it stands for one when it is written
again (`encode []`). -/

namespace FormEdit.Bencode

variable {u : Utf8.StandIns} {v w : Value} {bs : List UInt8}

/-! ## One value -/

/-- What is read back is the normal form. -/
theorem decode_of_encode (h : v.Storable) (hu : v.Writable u) :
    ∃ bs d, encode u v = .ok bs ∧ decode bs = .ok d ∧ d.same v.normal = true :=
  ⟨_, _, encode_eq_written h.codable hu, (readsAs_written h).decode, h.isNormal.same_sorted⟩

/-- Values are written alike if they have the same normal form, and only then. -/
theorem encode_eq_iff (hv : v.Storable) (hw : w.Storable) (huv : v.Writable u)
    (huw : w.Writable u) : encode u v = encode u w ↔ v.normal.same w.normal = true := by
  rw [encode_eq_written hv.codable huv, encode_eq_written hw.codable huw,
    hv.isNormal.same_iff hw.isNormal]
  constructor
  · intro h
    have hread := (readsAs_written hv).decode
    rw [Except.ok.inj h, (readsAs_written hw).decode] at hread
    exact (Except.ok.inj hread).symm
  · intro h
    rw [h]

/-- A value that was read is read back as it is, but for the order of entries. -/
theorem decode_encode_of_decode (hroom : Roomy bs) (h : decode bs = .ok v) :
    ∃ cs d, encode [] v = .ok cs ∧ decode cs = .ok d ∧ d.same v = true := by
  have hv := decoded_of_decode hroom h
  obtain ⟨cs, d, hencode, hdecode, hsame⟩ := decode_of_encode hv.storable (Value.writable_nil v)
  rw [hv.normal.normal_eq] at hsame
  exact ⟨cs, d, hencode, hdecode, hsame⟩

/-! ## Streams -/

/-- A beginning of values written one behind the other holds the first of them, all that are whole
    in it, and incomplete bytes behind. -/
theorem exists_wholes_of_append {vs : List Value} {code : Value → List UInt8}
    {message : Value → Value} (h : ∀ v ∈ vs, ReadsAs (code v) (message v)) {xs ys : List UInt8}
    (hxs : xs ++ ys = vs.flatMap code) :
    ∃ k r, wholes xs = ((vs.take k).map message, r) ∧ xs = (vs.take k).flatMap code ++ r ∧
      (∀ j ≤ vs.length, (vs.take j).flatMap code <+: xs → j ≤ k) ∧
      read r = .incomplete ∧ (ys = [] → k = vs.length ∧ r = []) := by
  induction vs generalizing xs with
  | nil =>
    obtain ⟨rfl, rfl⟩ := List.append_eq_nil_iff.1 hxs
    exact ⟨0, [], wholes_nil, rfl, fun j hj _ => hj, read_nil, fun _ => ⟨rfl, rfl⟩⟩
  | cons v vs ih =>
    rw [List.flatMap_cons] at hxs
    have hfirst : read (xs ++ ys) = .done (message v) (vs.flatMap code) := by
      rw [hxs]
      exact (h v List.mem_cons_self).read _
    cases hread : read xs with
    | malformed f =>
      rw [read_append_of_malformed hread] at hfirst
      cases hfirst
    | incomplete =>
      refine ⟨0, xs, wholes_of_not_done fun v rest => by simp [hread], rfl, ?_, hread, ?_⟩
      · rintro (_ | j) - hwhole
        · exact Nat.le_refl 0
        · rw [List.take_succ_cons, List.flatMap_cons] at hwhole
          obtain ⟨rest, rfl⟩ := (List.prefix_append _ _).trans hwhole
          rw [(h v List.mem_cons_self).read rest] at hread
          cases hread
      · rintro rfl
        rw [List.append_nil, hread] at hfirst
        cases hfirst
    | done m rest =>
      -- The first value has come whole, so what was read is this value and what follows it.
      rw [read_append_of_done hread] at hfirst
      obtain ⟨rfl, hrest⟩ := Reading.done.inj hfirst
      obtain ⟨k, r, hwholes, hsplit, hmost, hr, hend⟩ :=
        ih (fun w hw => h w (List.mem_cons_of_mem v hw)) hrest
      have hxs' : xs = code v ++ rest := by
        rw [← hrest, ← List.append_assoc] at hxs
        exact List.append_cancel_right hxs
      refine ⟨k + 1, r, ?_, ?_, ?_, hr, fun hys => ?_⟩
      · rw [wholes_of_done hread, hwholes]
        rfl
      · rw [hxs', hsplit, List.take_succ_cons, List.flatMap_cons, List.append_assoc]
      · rintro (_ | j) hj hwhole
        · exact Nat.zero_le _
        · rw [List.take_succ_cons, List.flatMap_cons, hxs', List.prefix_append_right_inj] at hwhole
          exact Nat.succ_le_succ (hmost j (Nat.le_of_succ_le_succ hj) hwhole)
      · obtain ⟨hk, hnil⟩ := hend hys
        exact ⟨by rw [hk, List.length_cons], hnil⟩

/-- The normal form is written as the value is. -/
theorem encode_sorted_normal (h : v.Storable) :
    encode [] v.normal.sorted = .ok (written v.normal.sorted) := by
  have hnormal := h.isNormal.sorted.normal_eq
  rw [encode_eq_written h.sorted_normal.codable (Value.writable_nil _), hnormal,
    h.isNormal.sorted_sorted]

theorem sameItems_sorted_normal {vs : List Value} (h : ∀ v ∈ vs, v.Storable) :
    Value.sameItems (vs.map fun v => v.normal.sorted) (vs.map Value.normal) = true := by
  have heach : ∀ a ∈ vs.map fun v => v.normal.sorted, ∀ b ∈ vs.map Value.normal,
      a.same b = true ↔ a.sorted = b.sorted := by
    refine List.forall_mem_map.2 fun v hv => List.forall_mem_map.2 fun w hw => ?_
    exact (h v hv).isNormal.sorted.same_iff (h w hw).isNormal
  rw [Value.sameItems_iff heach, List.map_map, List.map_map]
  exact List.map_congr_left fun v hv => (h v hv).isNormal.sorted_sorted

/-- However far a stream of written values has come, and however it is cut, the values that have
    come whole are handed back, in order and in normal form, and the bytes behind them wait. -/
theorem feedAll_of_append {vs : List Value} (h : ∀ v ∈ vs, v.Storable)
    {front behind : List (List UInt8)}
    (hfront : (front ++ behind).flatten = vs.flatMap fun v => written v.normal.sorted) :
    ∃ k, (Stream.empty.feedAll front).fault = none ∧
      (Stream.empty.feedAll front).messages = (vs.take k).map (fun v => v.normal.sorted) ∧
      front.flatten = ((vs.take k).flatMap fun v => written v.normal.sorted) ++
        ((Stream.empty.feedAll front).stream.pending?).getD [] ∧
      (∀ j ≤ vs.length,
        ((vs.take j).flatMap fun v => written v.normal.sorted) <+: front.flatten → j ≤ k) ∧
      (behind = [] → k = vs.length ∧ (Stream.empty.feedAll front).stream.pending? = none) := by
  have hreads : ∀ v ∈ vs, ReadsAs (written v.normal.sorted) v.normal.sorted := fun v hv =>
    readsAs_written (h v hv)
  rw [List.flatten_append] at hfront
  obtain ⟨k, r, hwholes, hsplit, hmost, hr, hend⟩ := exists_wholes_of_append hreads hfront
  obtain ⟨hfault, hmessages, hrest⟩ := Stream.feedAll_spec .empty read_nil front
  have hbytes : Stream.empty.buffer ++ front.flatten = front.flatten := rfl
  have hnone : (Stream.empty.feedAll front).fault = none := by
    rw [hfault, hbytes, faultIn, hwholes, hr, Reading.fault?]
    simp
  obtain ⟨hlost, hstream⟩ := hrest hnone
  rw [hlost, List.append_nil, hbytes, hwholes] at hmessages
  rw [hbytes, hwholes] at hstream
  have hpending : (Stream.empty.feedAll front).stream.pending? =
      if r.isEmpty then none else some r := by
    rw [hstream, Stream.pending?]
  refine ⟨k, hnone, hmessages, ?_, hmost, ?_⟩
  · rw [hpending]
    cases r with
    | nil => exact hsplit
    | cons b r => exact hsplit
  · rintro rfl
    obtain ⟨hk, rfl⟩ := hend rfl
    exact ⟨hk, hpending⟩

/-- Writing and reading back keep what bencode can hold, one value at a time and in streams, if no
    text or key of a value holds surrogates, and else nothing is written. A value is read back in
    normal form; values are written alike if they have the same normal form, and only then; what was
    read is read back as it is; and the values of a stream are handed back in order, in normal form,
    each once it has come whole, however the stream is cut into chunks, while exactly the bytes that
    are left wait. -/
theorem encode_decode_streams (u : Utf8.StandIns) :
    (∀ v : Value, v.Storable → v.Writable u →
      ∃ bs d, encode u v = .ok bs ∧ decode bs = .ok d ∧ d.same v.normal = true) ∧
    (∀ v : Value, v.Storable → ¬ v.Writable u → ∃ x, encode u v = .error (.unwritable x)) ∧
    (∀ v w : Value, v.Storable → w.Storable → v.Writable u → w.Writable u →
      (encode u v = encode u w ↔ v.normal.same w.normal = true)) ∧
    (∀ bs v, Roomy bs → decode bs = .ok v →
      ∃ cs d, encode [] v = .ok cs ∧ decode cs = .ok d ∧ d.same v = true) ∧
    ∀ vs : List Value, (∀ v ∈ vs, v.Storable ∧ v.Writable u) →
      ∃ codes : List (List UInt8), vs.map (encode u) = codes.map .ok ∧
        ∀ front behind : List (List UInt8), (front ++ behind).flatten = codes.flatten →
          ∃ k, (Stream.empty.feedAll front).fault = none ∧
            Value.sameItems (Stream.empty.feedAll front).messages ((vs.take k).map Value.normal) =
              true ∧
            (Stream.empty.feedAll front).messages.map (encode []) = (codes.take k).map .ok ∧
            front.flatten = (codes.take k).flatten ++
              ((Stream.empty.feedAll front).stream.pending?).getD [] ∧
            (∀ j ≤ vs.length, (codes.take j).flatten <+: front.flatten → j ≤ k) ∧
            (behind = [] →
              k = vs.length ∧ (Stream.empty.feedAll front).stream.pending? = none) := by
  refine ⟨fun v => decode_of_encode, fun v hv => exists_encode_error hv.codable,
    fun v w => encode_eq_iff, fun bs v => decode_encode_of_decode, fun vs hvs => ?_⟩
  have hstorable : ∀ v ∈ vs, v.Storable := fun v hv => (hvs v hv).1
  refine ⟨vs.map fun v => written v.normal.sorted, ?_, fun front behind hfront => ?_⟩
  · rw [List.map_map]
    exact List.map_congr_left fun v hv => encode_eq_written (hvs v hv).1.codable (hvs v hv).2
  · rw [← List.flatMap_def] at hfront
    obtain ⟨k, hfault, hmessages, hsplit, hmost, hend⟩ := feedAll_of_append hstorable hfront
    have htake : ∀ v ∈ vs.take k, v.Storable := fun v hv => hstorable v (List.mem_of_mem_take hv)
    simp only [← List.map_take, ← List.flatMap_def]
    refine ⟨k, hfault, ?_, ?_, hsplit, hmost, hend⟩
    · rw [hmessages]
      exact sameItems_sorted_normal htake
    · rw [hmessages, List.map_map, List.map_map]
      exact List.map_congr_left fun v hv => encode_sorted_normal (htake v hv)

/-- Of a stream of two values, cut inside of both, the first has come whole and the beginning of the
    second waits; and a text with a surrogate is not written. -/
theorem encode_decode_streams_cut_inside :
    let u : Utf8.StandIns := [('\ue000', 1279)]
    let v := Value.ofFields [("a", .tuple [.int 1])]
    let w := Value.ofFields [("a", .list [.int 1])]
    let front := ["d1:ali1", "eeei1"].map ascii
    let all := ["d1:ali1", "eeei1", "2e"].map ascii
    (v.Storable ∧ v.Writable u ∧ w.Storable ∧ w.Writable u ∧ encode u v = encode u w) ∧
      ((Value.text "\ue000").Storable ∧ ¬ (Value.text "\ue000").Writable u ∧
        ∃ x, encode u (.text "\ue000") = .error (.unwritable x)) ∧
      (decode (ascii "d1:ali1eee") = .ok w ∧
        ∃ cs d, encode [] w = .ok cs ∧ decode cs = .ok d ∧ d.same w = true) ∧
      ((Stream.empty.feedAll front).fault = none ∧
        Value.sameItems (Stream.empty.feedAll front).messages [w] = true ∧
        (Stream.empty.feedAll front).stream.pending? = some (ascii "i1")) ∧
      Value.sameItems (Stream.empty.feedAll all).messages [w, .int 12] = true ∧
        (Stream.empty.feedAll all).stream.pending? = none := by
  intro u v w front all
  have hone : Value.Storable (.int 1) := .int 1 (by decide +kernel)
  have htwelve : Value.Storable (.int 12) := .int 12 (by decide +kernel)
  have hfield : ∀ {i : Value}, i.Storable → (Value.ofFields [("a", i)]).Storable := fun hi =>
    .dict _ (List.nodup_singleton _) (List.forall_mem_singleton.2 (.text "a" (by decide +kernel)))
      (List.forall_mem_singleton.2 hi)
  have hv : v.Storable := hfield (.tuple _ (List.forall_mem_singleton.2 hone))
  have hw : w.Storable := hfield (.list _ (List.forall_mem_singleton.2 hone))
  have hkey : Utf8.Writable u "a".toList := by decide +kernel
  have hname : ∀ {i : Value}, i.Writable u → (Value.ofFields [("a", i)]).Writable u := fun hi =>
    Value.writable_ofFields_iff.2 (List.forall_mem_singleton.2 ⟨hkey, hi⟩)
  have huv : v.Writable u :=
    hname (Value.writable_tuple_iff.2 (List.forall_mem_singleton.2 (Value.writable_int 1)))
  have huw : w.Writable u :=
    hname (Value.writable_list_iff.2 (List.forall_mem_singleton.2 (Value.writable_int 1)))
  have hsurrogate : ¬ (Value.text "\ue000").Writable u := by
    rw [Value.writable_text_iff]
    decide +kernel
  have htext : (Value.text "\ue000").Storable := .text _ (by decide +kernel)
  -- The two values are written alike, as the first of the two texts that make up the stream.
  have hvcode : written v.normal.sorted = ascii "d1:ali1eee" := by decide +kernel
  have hwcode : written w.normal.sorted = ascii "d1:ali1eee" := by decide +kernel
  have hicode : written (Value.int 12).normal.sorted = ascii "i12e" := by decide +kernel
  have hsorted : w.normal.sorted = w := by
    rw [Value.sorted_normal_ofFields, List.perm_singleton.1 (Value.sortFields_perm _)]
    rfl
  have hdecode : decode (ascii "d1:ali1eee") = .ok w := by
    have hreads := (readsAs_written hw).decode
    rwa [hwcode, hsorted] at hreads
  obtain ⟨-, hrefused, halike, hread, hstream⟩ := encode_decode_streams u
  obtain ⟨codes, hcodes, hfeed⟩ := hstream [v, .int 12] (by
    simp [hv, huv, htwelve, Value.writable_int])
  obtain rfl : codes = [ascii "d1:ali1eee", ascii "i12e"] := by
    rw [List.map_cons, encode_eq_written hv.codable huv, hvcode, List.map_singleton,
      encode_eq_written htwelve.codable (Value.writable_int 12), hicode] at hcodes
    have hmap : codes.map (Except.ok : _ → Except EncodeError _) =
        [ascii "d1:ali1eee", ascii "i12e"].map .ok := hcodes.symm
    exact List.map_injective_iff.2 (fun _ _ => Except.ok.inj) hmap
  obtain ⟨k, hfault, hmessages, -, hsplit, hmost, -⟩ := hfeed front [ascii "2e"] (by decide)
  obtain ⟨k', -, hmessages', -, -, -, hend⟩ := hfeed all [] (by decide)
  obtain ⟨rfl, hpending'⟩ := hend rfl
  have hfront : front.flatten = ascii "d1:ali1eee" ++ ascii "i1" := by decide +kernel
  have hk : k = 1 := by
    have hlow : 1 ≤ k := hmost 1 (by decide) (by decide)
    have hhigh : k ≤ 1 := by
      refine Nat.le_of_not_lt fun htwo => ?_
      have hlength := congrArg List.length hsplit
      have hall : [ascii "d1:ali1eee", ascii "i12e"].flatten.length = 14 := by decide +kernel
      rw [List.take_of_length_le htwo, List.length_append, hall, hfront] at hlength
      have htwelve : (ascii "d1:ali1eee" ++ ascii "i1").length = 12 := by decide +kernel
      omega
    exact Nat.le_antisymm hhigh hlow
  subst hk
  have hpending : (Stream.empty.feedAll front).stream.pending? = some (ascii "i1") := by
    rw [hfront, List.take_one, List.head?_cons, Option.toList_some,
      List.flatten_singleton] at hsplit
    have hrest := List.append_cancel_left hsplit
    cases hp : (Stream.empty.feedAll front).stream.pending? with
    | none =>
      rw [hp] at hrest
      cases hrest
    | some bs =>
      rw [hp] at hrest
      exact congrArg some hrest.symm
  exact ⟨⟨hv, huv, hw, huw, (halike v w hv hw huv huw).2 (by decide +kernel)⟩,
    ⟨htext, hsurrogate, hrefused _ htext hsurrogate⟩,
    ⟨hdecode, hread _ _ (show Numeral.printable _ = true by decide +kernel) hdecode⟩,
    ⟨hfault, hmessages, hpending⟩, hmessages', hpending'⟩

/-- A text is not written where a character of it stands for a surrogate, and neither is a
    dictionary with such a key: the failure tells the code point and the place. -/
theorem encode_of_surrogate :
    let u : Utf8.StandIns := [('\ue000', 1279)]
    (Value.text "\ue000").Storable ∧ (Value.ofFields [("a\ue000", .int 1)]).Storable ∧
      encode u (.text "\ue000") = .error (.unwritable ⟨0, 1, 1279⟩) ∧
      encode u (.ofFields [("a\ue000", .int 1)]) = .error (.unwritable ⟨1, 1, 1279⟩) ∧
      (EncodeError.unwritable ⟨1, 1, 1279⟩).message =
        "'utf-8' codec can't encode character '\\udcff' in position 1: surrogates not allowed" := by
  intro u
  have hkey : (Value.text "a\ue000").Storable := .text _ (by decide +kernel)
  have hone : Value.Storable (.int 1) := .int 1 (by decide +kernel)
  have hfields : (Value.ofFields [("a\ue000", .int 1)]).Storable := .dict _ (List.nodup_singleton _)
    (List.forall_mem_singleton.2 hkey) (List.forall_mem_singleton.2 hone)
  exact ⟨.text _ (by decide +kernel), hfields, rfl, rfl, by decide +kernel⟩

end FormEdit.Bencode
