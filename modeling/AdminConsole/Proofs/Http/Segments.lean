import AdminConsole.Http.Address
import AdminConsole.Proofs.Schema.ChangePath
import Mathlib.Data.List.TakeWhile

/-!
# Proofs/Http/Segments — the segments of a path, and what they say

A path is cut at its slashes (`segments`), its dots are resolved (`resolve`), and its escapes stand
for bytes (`unescape`).  Each of these can only make a path lighter, a segment weighing its bytes
and one more: resolving drops segments (`resolve_sublist`), and reading an escape takes three
characters for one byte (`length_unescape_encoded_iff`).  A path that keeps its weight has lost
nothing.
-/

namespace AdminConsole.Http.Address

/-! ## Slashes -/

theorem segments_ne_nil : ∀ cs : List Char, segments cs ≠ []
  | [] => List.cons_ne_nil _ _
  | c :: rest => by
      unfold segments
      split_ifs
      · exact List.cons_ne_nil _ _
      · split <;> exact List.cons_ne_nil _ _

theorem segments_slash (cs : List Char) : segments ('/' :: cs) = [] :: segments cs := rfl

theorem segments_cons {c : Char} (hc : c ≠ '/') {cs part : List Char} {parts : List (List Char)}
    (h : segments cs = part :: parts) : segments (c :: cs) = (c :: part) :: parts := by
  rw [segments, if_neg (by simpa using hc), h]

/-- **A slash parts what is before it from what is after it.** -/
theorem segments_append_slash (after : List Char) : ∀ before : List Char,
    segments (before ++ '/' :: after) = segments before ++ segments after
  | [] => rfl
  | c :: before => by
      have ih := segments_append_slash after before
      by_cases hc : c = '/'
      · subst hc
        rw [List.cons_append, segments_slash, ih, segments_slash, List.cons_append]
      · obtain ⟨part, parts, hparts⟩ := List.exists_cons_of_ne_nil (segments_ne_nil before)
        rw [hparts, List.cons_append] at ih
        rw [List.cons_append, segments_cons hc ih, segments_cons hc hparts, List.cons_append]

theorem segments_of_slashless : ∀ {cs : List Char}, '/' ∉ cs → segments cs = [cs]
  | [], _ => rfl
  | c :: cs, h => by
      have hc : c ≠ '/' := fun he => h (he ▸ List.mem_cons_self)
      exact segments_cons hc (segments_of_slashless fun hmem => h (List.mem_cons_of_mem _ hmem))

theorem slashless_of_mem_segments : ∀ {cs part : List Char}, part ∈ segments cs → '/' ∉ part
  | [], part, h => by
      obtain rfl := List.mem_singleton.mp h
      exact List.not_mem_nil
  | c :: cs, part, h => by
      by_cases hc : c = '/'
      · subst hc
        rcases List.mem_cons.mp h with rfl | h
        · exact List.not_mem_nil
        · exact slashless_of_mem_segments h
      · obtain ⟨first, parts, hparts⟩ := List.exists_cons_of_ne_nil (segments_ne_nil cs)
        have hall : ∀ p ∈ first :: parts, '/' ∉ p := fun p hp =>
          slashless_of_mem_segments (hparts ▸ hp)
        rw [segments_cons hc hparts] at h
        rcases List.mem_cons.mp h with rfl | h
        · rw [List.mem_cons, not_or]
          exact ⟨Ne.symm hc, hall first List.mem_cons_self⟩
        · exact hall part (List.mem_cons_of_mem _ h)

/-- **Segments that were joined come apart again**, unless there is none. -/
theorem segments_joined : ∀ {parts : List (List Char)}, parts ≠ [] → (∀ p ∈ parts, '/' ∉ p) →
    segments (joinTexts "/" (parts.map String.ofList)).toList = parts
  | [], h, _ => absurd rfl h
  | [part], _, h => by
      have hpart := segments_of_slashless (h part (List.mem_singleton_self part))
      simpa [joinTexts] using hpart
  | first :: second :: parts, _, h => by
      have hfirst := segments_of_slashless (h first List.mem_cons_self)
      have ih := segments_joined (List.cons_ne_nil second parts) fun p hp =>
        h p (List.mem_cons_of_mem _ hp)
      rw [List.map_cons, List.map_cons, joinTexts_cons_cons, String.toList_append,
        String.toList_append, String.toList_ofList, List.append_assoc]
      have hslash (cs : List Char) : "/".toList ++ cs = '/' :: cs := rfl
      rw [hslash, segments_append_slash, hfirst, ← List.map_cons, ih, List.singleton_append]

/-! ## Dots -/

/-- Whether a segment is taken for a step in the path, not for a name. -/
def IsDots (segment : List Char) : Prop := segment = ['.'] ∨ segment = ['.', '.']

instance (segment : List Char) : Decidable (IsDots segment) := inferInstanceAs (Decidable (_ ∨ _))

/-- The segments that are left when the dots are resolved. -/
def resolve (parts : List (List Char)) : List (List Char) := (parts.foldl dropDot []).reverse

theorem withoutDots_eq (path : String) :
    withoutDots path = joinTexts "/" ((resolve (segments path.toList)).map String.ofList) := rfl

theorem dropDot_of_not_isDots {segment : List Char} (h : ¬ IsDots segment)
    (before : List (List Char)) : dropDot before segment = segment :: before := by
  rw [IsDots, not_or] at h
  rw [dropDot, if_neg (by simpa using h.1), if_neg (by simpa using h.2)]

theorem foldl_dropDot_of_dotless : ∀ {parts : List (List Char)} (before : List (List Char)),
    (∀ p ∈ parts, ¬ IsDots p) → parts.foldl dropDot before = parts.reverse ++ before
  | [], _, _ => rfl
  | part :: parts, before, h => by
      rw [List.foldl_cons, dropDot_of_not_isDots (h part List.mem_cons_self),
        foldl_dropDot_of_dotless _ fun p hp => h p (List.mem_cons_of_mem _ hp), List.reverse_cons,
        List.append_assoc, List.singleton_append]

/-- **Nothing is resolved where there are no dots.** -/
theorem resolve_of_dotless {parts : List (List Char)} (h : ∀ p ∈ parts, ¬ IsDots p) :
    resolve parts = parts := by
  rw [resolve, foldl_dropDot_of_dotless [] h, List.append_nil, List.reverse_reverse]

theorem dropDot_sublist (before : List (List Char)) (segment : List Char) :
    (dropDot before segment).Sublist (segment :: before) := by
  unfold dropDot
  split_ifs
  · exact List.sublist_cons_self _ _
  · exact List.sublist_cons_self _ _
  · exact (List.tail_sublist before).trans (List.sublist_cons_self _ _)
  · exact List.Sublist.refl _

theorem foldl_dropDot_sublist : ∀ (parts before : List (List Char)),
    (parts.foldl dropDot before).Sublist (parts.reverse ++ before)
  | [], _ => List.Sublist.refl _
  | part :: parts, before => by
      rw [List.foldl_cons, List.reverse_cons, List.append_assoc, List.singleton_append]
      exact (foldl_dropDot_sublist parts _).trans ((dropDot_sublist before part).append_left _)

/-- **Resolving only drops segments.** -/
theorem resolve_sublist (parts : List (List Char)) : (resolve parts).Sublist parts := by
  have h := (foldl_dropDot_sublist parts []).reverse
  rwa [List.append_nil, List.reverse_reverse] at h

theorem not_isDots_of_mem_dropDot {before : List (List Char)} {segment part : List Char}
    (hbefore : ∀ p ∈ before, ¬ IsDots p) (h : part ∈ dropDot before segment) : ¬ IsDots part := by
  unfold dropDot at h
  split_ifs at h with hone htwo hroot
  · exact hbefore part h
  · exact hbefore part h
  · exact hbefore part (List.mem_of_mem_tail h)
  · rcases List.mem_cons.mp h with rfl | h
    · rw [IsDots, not_or]
      exact ⟨by simpa using hone, by simpa using htwo⟩
    · exact hbefore part h

theorem not_isDots_of_mem_foldl : ∀ {parts before : List (List Char)} {part : List Char},
    (∀ p ∈ before, ¬ IsDots p) → part ∈ parts.foldl dropDot before → ¬ IsDots part
  | [], _, part, hbefore, h => hbefore part h
  | _ :: _, _, _, hbefore, h =>
      not_isDots_of_mem_foldl (fun _ hp => not_isDots_of_mem_dropDot hbefore hp) h

theorem not_isDots_of_mem_resolve {parts : List (List Char)} {part : List Char}
    (h : part ∈ resolve parts) : ¬ IsDots part :=
  not_isDots_of_mem_foldl (fun _ hp => absurd hp List.not_mem_nil) (List.mem_reverse.mp h)

/-! ## Bytes and escapes -/

/-- The bytes of some characters. -/
def bytes (cs : List Char) : List UInt8 := cs.flatMap String.utf8EncodeChar

/-- **Percent-decoding**: a percent sign with two hexadecimal digits stands for a byte, anything
else for itself. -/
def unescape : List Char → List UInt8
  | '%' :: high :: low :: rest =>
    match Text.hexDigit? high, Text.hexDigit? low with
    | some h, some l => UInt8.ofNat (16 * h + l) :: unescape rest
    | _, _ => String.utf8EncodeChar '%' ++ unescape (high :: low :: rest)
  | c :: rest => String.utf8EncodeChar c ++ unescape rest
  | [] => []

/-- Whether two hexadecimal digits are at the front. -/
def startsByte : List Char → Bool
  | high :: low :: _ => (Text.hexDigit? high).isSome && (Text.hexDigit? low).isSome
  | _ => false

/-- Whether a percent sign stands before two hexadecimal digits. -/
def hasEscape : List Char → Bool
  | [] => false
  | c :: rest => (c == '%' && startsByte rest) || hasEscape rest

/-- Characters as they are sent in a path. -/
def encoded (cs : List Char) : List Char := cs.flatMap (encodeChar isPlainInPath)

theorem unescape_of_ne {c : Char} (hc : c ≠ '%') (rest : List Char) :
    unescape (c :: rest) = String.utf8EncodeChar c ++ unescape rest := by
  rw [unescape]
  rintro high low rest rfl
  exact absurd rfl hc

theorem unescape_percent : ∀ {rest : List Char}, startsByte rest = false →
    unescape ('%' :: rest) = String.utf8EncodeChar '%' ++ unescape rest
  | [], _ => by rw [unescape]; nofun
  | [_], _ => by rw [unescape]; nofun
  | high :: low :: rest, h => by
      rw [unescape]
      split
      · next hhigh hlow => simp [startsByte, hhigh, hlow] at h
      · rfl

/-! ## What is sent -/

theorem encoded_cons (c : Char) (cs : List Char) :
    encoded (c :: cs) = encodeChar isPlainInPath c ++ encoded cs := rfl

theorem encodeChar_of_plain {c : Char} (h : isPlainInPath c = true) :
    encodeChar isPlainInPath c = [c] := by
  rw [encodeChar, if_pos h]

theorem hexDigit?_bounds {c : Char} (h : (Text.hexDigit? c).isSome) :
    48 ≤ c.toNat ∧ c.toNat ≤ 102 := by
  unfold Text.hexDigit? at h
  split_ifs at h with hdigit hlower hupper
  · have hhigh : c.toNat ≤ 57 := hdigit.2
    exact ⟨hdigit.1, by omega⟩
  · have hlow : 97 ≤ c.toNat := hlower.1
    exact ⟨by omega, hlower.2⟩
  · have hlow : 65 ≤ c.toNat := hupper.1
    have hhigh : c.toNat ≤ 70 := hupper.2
    exact ⟨by omega, by omega⟩
  · nomatch h

theorem isPlainInPath_of_hexDigit? {c : Char} (h : (Text.hexDigit? c).isSome) :
    isPlainInPath c = true := by
  obtain ⟨hlow, hhigh⟩ := hexDigit?_bounds h
  have hout {ds : List Char} (hds : (ds.any fun d => (Text.hexDigit? d).isSome) = false) :
      ds.contains c = false := by
    rw [List.contains_eq_mem, decide_eq_false_iff_not]
    exact fun hmem => List.any_eq_false.mp hds c hmem h
  rw [isPlainInPath, isPlainInQuery, hout (by decide), hout (by decide)]
  simp
  omega

theorem hexDigit?_upperHex : ∀ n < 16, Text.hexDigit? (upperHex n) = some n := by
  decide

/-- **An escape is read as its byte.** -/
theorem unescape_escapeByte (b : UInt8) (rest : List Char) :
    unescape (escapeByte b ++ rest) = b :: unescape rest := by
  have hb : b.toNat < 256 := b.toNat_lt
  simp only [escapeByte, List.cons_append, List.nil_append]
  rw [unescape, hexDigit?_upperHex _ (by omega), hexDigit?_upperHex _ (by omega)]
  simp only
  rw [Nat.div_add_mod, UInt8.ofNat_toNat]

theorem unescape_flatMap_escapeByte (rest : List Char) : ∀ bs : List UInt8,
    unescape (bs.flatMap escapeByte ++ rest) = bs ++ unescape rest
  | [] => rfl
  | b :: bs => by
      rw [List.flatMap_cons, List.append_assoc, unescape_escapeByte,
        unescape_flatMap_escapeByte rest bs, List.cons_append]

theorem byteArray_toList_loop (bs : ByteArray) (i : Nat) (r : List UInt8) :
    ByteArray.toList.loop bs i r = r.reverse ++ bs.data.toList.drop i := by
  fun_induction ByteArray.toList.loop bs i r with
  | case1 i r h ih =>
      have hi : i < bs.data.toList.length := by simpa using h
      have hget : bs.get! i = bs.data.toList[i] := getElem!_pos bs.data i (by simpa using h)
      rw [ih, List.reverse_cons, List.append_assoc, List.singleton_append, hget,
        ← List.drop_eq_getElem_cons hi]
  | case2 i r h =>
      rw [List.drop_eq_nil_of_le (by simpa using h), List.append_nil]

/-- The bytes of a text are those of its characters. -/
theorem toUTF8_toList (cs : List Char) : (String.ofList cs).toUTF8.toList = bytes cs := by
  have hdata : (String.ofList cs).toUTF8.data.toList = bytes cs := by
    simp [bytes, List.utf8Encode, List.data_toByteArray]
  rw [ByteArray.toList, byteArray_toList_loop, hdata]
  rfl

theorem length_utf8EncodeChar_pos (c : Char) : 0 < (String.utf8EncodeChar c).length :=
  (String.length_utf8EncodeChar c).symm ▸ c.utf8Size_pos

theorem encodeChar_of_not_plain {c : Char} (h : ¬ isPlainInPath c = true) :
    encodeChar isPlainInPath c = (String.utf8EncodeChar c).flatMap escapeByte := by
  rw [encodeChar, if_neg h, toUTF8_toList, bytes, List.flatMap_singleton]

/-- A character that is not plain is sent from a percent sign on. -/
theorem encodeChar_cases (c : Char) : isPlainInPath c = true ∧ encodeChar isPlainInPath c = [c] ∨
    ¬ isPlainInPath c = true ∧ ∃ tail, encodeChar isPlainInPath c = '%' :: tail := by
  by_cases h : isPlainInPath c = true
  · exact .inl ⟨h, encodeChar_of_plain h⟩
  · obtain ⟨b, bs, hbytes⟩ := List.exists_cons_of_length_pos (length_utf8EncodeChar_pos c)
    exact .inr ⟨h, _, by rw [encodeChar_of_not_plain h, hbytes]; rfl⟩

theorem isSome_hexDigit?_of_not_plain {c : Char} (h : ¬ isPlainInPath c = true) :
    (Text.hexDigit? c).isSome = false :=
  Bool.eq_false_iff.mpr fun hsome => h (isPlainInPath_of_hexDigit? hsome)

theorem startsByte_percent : ∀ rest : List Char, startsByte ('%' :: rest) = false
  | [] => rfl
  | _ :: _ => rfl

/-- **Sending makes no digits** and takes none away. -/
theorem startsByte_encoded : ∀ cs : List Char, startsByte (encoded cs) = startsByte cs
  | [] => rfl
  | [c] => by
      rcases encodeChar_cases c with ⟨-, h⟩ | ⟨-, tail, h⟩
      · rw [encoded_cons, h]
        rfl
      · rw [encoded_cons, h, List.cons_append, startsByte_percent]
        rfl
  | high :: low :: rest => by
      rcases encodeChar_cases high with ⟨-, h⟩ | ⟨hhigh, tail, h⟩
      · rcases encodeChar_cases low with ⟨-, h'⟩ | ⟨hlow, tail, h'⟩
        · rw [encoded_cons, encoded_cons, h, h']
          rfl
        · rw [encoded_cons, encoded_cons, h, h']
          simp only [List.cons_append, List.nil_append, startsByte,
            isSome_hexDigit?_of_not_plain hlow, Bool.and_false]
          exact Bool.and_false _
      · rw [encoded_cons, h, List.cons_append, startsByte_percent]
        simp only [startsByte, isSome_hexDigit?_of_not_plain hhigh, Bool.false_and]

/-- A character that begins no escape is read as itself. -/
theorem unescape_encoded_cons {c : Char} {cs : List Char}
    (h : (c == '%' && startsByte cs) = false) :
    unescape (encoded (c :: cs)) = String.utf8EncodeChar c ++ unescape (encoded cs) := by
  by_cases hplain : isPlainInPath c = true
  · rw [encoded_cons, encodeChar_of_plain hplain, List.singleton_append]
    by_cases hc : c = '%'
    · subst hc
      exact unescape_percent (by simpa [startsByte_encoded] using h)
    · exact unescape_of_ne hc _
  · rw [encoded_cons, encodeChar_of_not_plain hplain, unescape_flatMap_escapeByte]

/-- **What begins an escape** is read as one byte. -/
theorem exists_unescape_encoded_escape {cs : List Char} (h : startsByte cs = true) :
    ∃ high low rest b, cs = high :: low :: rest ∧
      unescape (encoded ('%' :: cs)) = b :: unescape (encoded rest) := by
  match cs, h with
  | high :: low :: rest, h =>
      rw [startsByte, Bool.and_eq_true] at h
      obtain ⟨⟨m, hm⟩, n, hn⟩ := h.imp Option.isSome_iff_exists.mp Option.isSome_iff_exists.mp
      refine ⟨high, low, rest, UInt8.ofNat (16 * m + n), rfl, ?_⟩
      rw [encoded_cons, encoded_cons, encoded_cons, encodeChar_of_plain (by decide),
        encodeChar_of_plain (isPlainInPath_of_hexDigit? h.1),
        encodeChar_of_plain (isPlainInPath_of_hexDigit? h.2)]
      simp only [List.singleton_append, unescape, hm, hn]

/-- **Characters without an escape** are received as they were. -/
theorem unescape_encoded : ∀ {cs : List Char}, hasEscape cs = false →
    unescape (encoded cs) = bytes cs
  | [], _ => rfl
  | c :: cs, h => by
      rw [hasEscape, Bool.or_eq_false_iff] at h
      rw [unescape_encoded_cons h.1, unescape_encoded h.2]
      rfl

theorem bytes_cons (c : Char) (cs : List Char) :
    bytes (c :: cs) = String.utf8EncodeChar c ++ bytes cs := rfl

/-- No more bytes are received than were meant. -/
theorem length_unescape_encoded_le (cs : List Char) :
    (unescape (encoded cs)).length ≤ (bytes cs).length := by
  match cs with
  | [] => exact Nat.le_refl _
  | c :: cs =>
      rw [bytes_cons, List.length_append]
      cases h : (c == '%' && startsByte cs) with
      | false =>
          have ih := length_unescape_encoded_le cs
          rw [unescape_encoded_cons h, List.length_append]
          omega
      | true =>
          rw [Bool.and_eq_true, beq_iff_eq] at h
          obtain ⟨rfl, hstarts⟩ := h
          obtain ⟨high, low, rest, b, rfl, hread⟩ := exists_unescape_encoded_escape hstarts
          have ih := length_unescape_encoded_le rest
          rw [hread, bytes_cons, bytes_cons, List.length_cons, List.length_append,
            List.length_append]
          have := length_utf8EncodeChar_pos '%'
          omega
termination_by cs.length

/-- **An escape costs bytes.** -/
theorem length_unescape_encoded_lt : ∀ {cs : List Char}, hasEscape cs = true →
    (unescape (encoded cs)).length < (bytes cs).length
  | c :: cs, hescape => by
      rw [bytes_cons, List.length_append]
      cases h : (c == '%' && startsByte cs) with
      | false =>
          have ih : (unescape (encoded cs)).length < (bytes cs).length :=
            length_unescape_encoded_lt (by simpa [hasEscape, h] using hescape)
          rw [unescape_encoded_cons h, List.length_append]
          omega
      | true =>
          rw [Bool.and_eq_true, beq_iff_eq] at h
          obtain ⟨rfl, hstarts⟩ := h
          obtain ⟨high, low, rest, b, rfl, hread⟩ := exists_unescape_encoded_escape hstarts
          have hrest := length_unescape_encoded_le rest
          have hpercent := length_utf8EncodeChar_pos '%'
          have hhigh := length_utf8EncodeChar_pos high
          rw [hread, bytes_cons, bytes_cons, List.length_cons, List.length_append,
            List.length_append]
          omega

/-! ## Sent segments -/

theorem slashless_encodeChar {c : Char} (hc : c ≠ '/') : '/' ∉ encodeChar isPlainInPath c := by
  by_cases h : isPlainInPath c = true
  · rw [encodeChar_of_plain h]
    exact fun hmem => hc (List.mem_singleton.mp hmem).symm
  · rw [encodeChar_of_not_plain h]
    intro hmem
    obtain ⟨b, -, hb⟩ := List.mem_flatMap.mp hmem
    have hdigit : ∀ n < 16, upperHex n ≠ '/' := by decide
    have hsize : b.toNat < 256 := b.toNat_lt
    rcases List.mem_cons.mp hb with h | h
    · exact absurd h (by decide)
    · rcases List.mem_cons.mp h with h | h
      · exact hdigit _ (by omega) h.symm
      · exact hdigit _ (by omega) (List.mem_singleton.mp h).symm

theorem segments_append_of_slashless {cs part : List Char} {parts : List (List Char)}
    (h : segments cs = part :: parts) : ∀ {before : List Char}, '/' ∉ before →
    segments (before ++ cs) = (before ++ part) :: parts
  | [], _ => h
  | c :: before, hbefore => by
      rw [List.mem_cons, not_or] at hbefore
      exact segments_cons (Ne.symm hbefore.1) (segments_append_of_slashless h hbefore.2)

/-- **Sending keeps the segments apart.** -/
theorem segments_encoded : ∀ cs : List Char, segments (encoded cs) = (segments cs).map encoded
  | [] => rfl
  | c :: cs => by
      have ih := segments_encoded cs
      by_cases hc : c = '/'
      · subst hc
        rw [encoded_cons, encodeChar_of_plain (by decide), List.singleton_append, segments_slash,
          segments_slash, ih]
        rfl
      · obtain ⟨part, parts, hparts⟩ := List.exists_cons_of_ne_nil (segments_ne_nil cs)
        rw [hparts, List.map_cons] at ih
        rw [segments_cons hc hparts, encoded_cons,
          segments_append_of_slashless ih (slashless_encodeChar hc)]
        rfl

theorem encoded_eq_nil : ∀ {cs : List Char}, encoded cs = [] → cs = []
  | [], _ => rfl
  | c :: cs, h => by
      rw [encoded_cons] at h
      rcases encodeChar_cases c with ⟨-, hc⟩ | ⟨-, tail, hc⟩
      · rw [hc] at h
        nomatch h
      · rw [hc] at h
        nomatch h

/-- A sent character that is no percent sign was sent as it is. -/
theorem eq_cons_of_encoded {d : Char} (hd : d ≠ '%') {ds : List Char} : ∀ {cs : List Char},
    encoded cs = d :: ds → ∃ rest, cs = d :: rest ∧ encoded rest = ds
  | [], h => nomatch h
  | c :: cs, h => by
      rw [encoded_cons] at h
      rcases encodeChar_cases c with ⟨-, hc⟩ | ⟨-, tail, hc⟩
      · rw [hc, List.singleton_append, List.cons.injEq] at h
        exact ⟨cs, by rw [h.1], h.2⟩
      · rw [hc, List.cons_append, List.cons.injEq] at h
        exact absurd h.1.symm hd

theorem isDots_encoded {cs : List Char} : IsDots (encoded cs) ↔ IsDots cs := by
  constructor
  · rintro (h | h)
    · obtain ⟨rest, rfl, hrest⟩ := eq_cons_of_encoded (by decide) h
      obtain rfl := encoded_eq_nil hrest
      exact .inl rfl
    · obtain ⟨second, rfl, hsecond⟩ := eq_cons_of_encoded (by decide) h
      obtain ⟨rest, rfl, hrest⟩ := eq_cons_of_encoded (by decide) hsecond
      obtain rfl := encoded_eq_nil hrest
      exact .inr rfl
  · rintro (rfl | rfl)
    · exact .inl (by decide)
    · exact .inr (by decide)

/-! ## Weights -/

/-- The weight of some segments: their bytes, and one more for each. -/
def weight (parts : List (List UInt8)) : Nat := parts.flatten.length + parts.length

theorem weight_cons (p : List UInt8) (parts : List (List UInt8)) :
    weight (p :: parts) = p.length + 1 + weight parts := by
  rw [weight, weight, List.flatten_cons, List.length_append, List.length_cons]
  omega

theorem weight_append (ps qs : List (List UInt8)) : weight (ps ++ qs) = weight ps + weight qs := by
  rw [weight, weight, weight, List.flatten_append, List.length_append, List.length_append]
  omega

/-- **What keeps its weight has lost no segment.** -/
theorem eq_of_sublist_of_weight_le {ps qs : List (List UInt8)} (h : ps.Sublist qs)
    (hweight : weight qs ≤ weight ps) : ps = qs := by
  have hlt : ps = qs ∨ weight ps < weight qs := by
    clear hweight
    induction h with
    | slnil => exact .inl rfl
    | cons q _ ih =>
        rw [weight_cons]
        rcases ih with rfl | ih
        · exact .inr (by omega)
        · exact .inr (by omega)
    | cons_cons q _ ih =>
        rw [weight_cons, weight_cons]
        rcases ih with rfl | ih
        · exact .inl rfl
        · exact .inr (by omega)
  exact hlt.resolve_right (by omega)

/-- A slash weighs as much as the segment that it begins. -/
theorem weight_segments : ∀ cs : List Char,
    weight ((segments cs).map bytes) = (bytes cs).length + 1
  | [] => rfl
  | c :: cs => by
      have ih := weight_segments cs
      by_cases hc : c = '/'
      · subst hc
        rw [segments_slash, List.map_cons, weight_cons, ih, bytes_cons, List.length_append]
        have hslash : (String.utf8EncodeChar '/').length = 1 := rfl
        have hnil : (bytes []).length = 0 := rfl
        omega
      · obtain ⟨part, parts, hparts⟩ := List.exists_cons_of_ne_nil (segments_ne_nil cs)
        rw [hparts, List.map_cons, weight_cons] at ih
        rw [segments_cons hc hparts, List.map_cons, weight_cons, bytes_cons, bytes_cons,
          List.length_append, List.length_append]
        omega

/-- Receiving makes no segment heavier. -/
theorem weight_received_le : ∀ parts : List (List Char),
    weight (parts.map fun p => unescape (encoded p)) ≤ weight (parts.map bytes)
  | [] => Nat.le_refl _
  | p :: parts => by
      have ih := weight_received_le parts
      have hp := length_unescape_encoded_le p
      rw [List.map_cons, List.map_cons, weight_cons, weight_cons]
      omega

/-- **Segments that keep their weight have no escapes.** -/
theorem escapeless_of_weight_le : ∀ {parts : List (List Char)},
    weight (parts.map bytes) ≤ weight (parts.map fun p => unescape (encoded p)) →
      ∀ p ∈ parts, hasEscape p = false
  | [], _ => nofun
  | p :: parts, h => by
      have hrest := weight_received_le parts
      have hp := length_unescape_encoded_le p
      rw [List.map_cons, List.map_cons, weight_cons, weight_cons] at h
      rw [List.forall_mem_cons]
      refine ⟨Bool.eq_false_iff.mpr fun hescape => ?_, escapeless_of_weight_le (by omega)⟩
      have hlt := length_unescape_encoded_lt hescape
      omega

/-! ## Parts of a path -/

/-- A text that stays one segment of a path: it does not end the path or the segment, is no step of
one or two dots, and has no escape. -/
structure IsSegment (s : String) : Prop where
  unmarked : ∀ c ∈ s.toList, c ≠ '/' ∧ c ≠ '?' ∧ c ≠ '#'
  dotless : ¬ IsDots s.toList
  escapeless : hasEscape s.toList = false

-- The characters of the text are gone through, not all characters there are.
instance (s : String) : Decidable (IsSegment s) :=
  have : Decidable (∀ c ∈ s.toList, c ≠ '/' ∧ c ≠ '?' ∧ c ≠ '#') := List.decidableBAll _ _
  decidable_of_iff ((∀ c ∈ s.toList, c ≠ '/' ∧ c ≠ '?' ∧ c ≠ '#') ∧ ¬ IsDots s.toList ∧
      hasEscape s.toList = false)
    ⟨fun ⟨h, hdots, hescape⟩ => ⟨h, hdots, hescape⟩, fun ⟨h, hdots, hescape⟩ => ⟨h, hdots, hescape⟩⟩

/-- Texts with slashes between them. -/
def slashed (texts : List String) : List Char := (joinTexts "/" texts).toList

theorem slashed_cons_cons (s t : String) (texts : List String) :
    slashed (s :: t :: texts) = s.toList ++ '/' :: slashed (t :: texts) := by
  rw [slashed, joinTexts_cons_cons, String.toList_append, String.toList_append, List.append_assoc]
  rfl

theorem mem_slashed_of_mem {c : Char} {t : String} (hc : c ∈ t.toList) : ∀ {texts : List String},
    t ∈ texts → c ∈ slashed texts
  | [_], h => List.mem_singleton.mp h ▸ hc
  | s :: u :: texts, h => by
      rw [slashed_cons_cons, List.mem_append, List.mem_cons]
      rcases List.mem_cons.mp h with rfl | h
      · exact .inl hc
      · exact .inr (.inr (mem_slashed_of_mem hc h))

theorem mem_slashed {c : Char} : ∀ {texts : List String}, c ∈ slashed texts →
    c = '/' ∨ ∃ t ∈ texts, c ∈ t.toList
  | [], h => nomatch h
  | [t], h => .inr ⟨t, List.mem_singleton_self t, h⟩
  | s :: u :: texts, h => by
      rw [slashed_cons_cons, List.mem_append, List.mem_cons] at h
      rcases h with h | h | h
      · exact .inr ⟨s, List.mem_cons_self, h⟩
      · exact .inl h
      · exact (mem_slashed h).imp_right fun ⟨t, ht, hc⟩ => ⟨t, List.mem_cons_of_mem s ht, hc⟩

theorem segments_slashed : ∀ {texts : List String}, texts ≠ [] →
    segments (slashed texts) = texts.flatMap fun t => segments t.toList
  | [], h => absurd rfl h
  | [t], _ => by simp [slashed, joinTexts]
  | s :: t :: texts, _ => by
      rw [slashed_cons_cons, segments_append_slash, segments_slashed (List.cons_ne_nil t texts)]
      rfl

/-- **A path is its segments with slashes between them.** -/
theorem slashed_segments : ∀ cs : List Char, slashed ((segments cs).map String.ofList) = cs
  | [] => rfl
  | c :: cs => by
      have ih := slashed_segments cs
      obtain ⟨part, parts, hparts⟩ := List.exists_cons_of_ne_nil (segments_ne_nil cs)
      rw [hparts] at ih
      by_cases hc : c = '/'
      · subst hc
        rw [segments_slash, hparts, List.map_cons, List.map_cons, slashed_cons_cons,
          ← List.map_cons, ih]
        rfl
      · rw [segments_cons hc hparts]
        cases parts with
        | nil => simpa [slashed, joinTexts] using ih
        | cons next parts =>
          rw [List.map_cons, List.map_cons, slashed_cons_cons] at ih ⊢
          simpa using ih

/-- **Paths read the same with slashes** exactly if their names have the same segments. -/
theorem slashed_eq_iff {texts others : List String} (ht : texts ≠ []) (ho : others ≠ []) :
    slashed texts = slashed others ↔
      (texts.flatMap fun t => segments t.toList) = others.flatMap fun t => segments t.toList := by
  rw [← segments_slashed ht, ← segments_slashed ho]
  refine ⟨congrArg segments, fun h => ?_⟩
  rw [← slashed_segments (slashed texts), h, slashed_segments]

theorem bytes_append (cs ds : List Char) : bytes (cs ++ ds) = bytes cs ++ bytes ds :=
  List.flatMap_append

theorem weight_slashed : ∀ {texts : List String}, texts ≠ [] →
    weight (texts.map fun t => bytes t.toList) = (bytes (slashed texts)).length + 1
  | [], h => absurd rfl h
  | [t], _ => by
      rw [List.map_singleton, weight_cons]
      exact Nat.add_zero _
  | s :: t :: texts, _ => by
      have ih := weight_slashed (List.cons_ne_nil t texts)
      have hslash : (String.utf8EncodeChar '/').length = 1 := rfl
      rw [List.map_cons, weight_cons, ih, slashed_cons_cons, bytes_append, bytes_cons,
        List.length_append, List.length_append]
      omega

theorem length_segments_pos (cs : List Char) : 0 < (segments cs).length :=
  List.length_pos_iff.mpr (segments_ne_nil cs)

theorem slashless_of_length_segments_le {cs : List Char} (h : (segments cs).length ≤ 1) :
    '/' ∉ cs := by
  intro hmem
  obtain ⟨before, after, rfl⟩ := List.append_of_mem hmem
  rw [segments_append_slash, List.length_append] at h
  have hbefore := length_segments_pos before
  have hafter := length_segments_pos after
  omega

theorem length_le_length_flatMap_segments : ∀ texts : List String,
    texts.length ≤ (texts.flatMap fun t => segments t.toList).length
  | [] => Nat.le_refl _
  | t :: texts => by
      have ih := length_le_length_flatMap_segments texts
      have ht := length_segments_pos t.toList
      rw [List.flatMap_cons, List.length_append, List.length_cons]
      omega

/-- **Texts that make as many segments as they are** have no slashes. -/
theorem slashless_of_length_le : ∀ {texts : List String},
    (texts.flatMap fun t => segments t.toList).length ≤ texts.length →
      ∀ t ∈ texts, '/' ∉ t.toList
  | [], _ => nofun
  | t :: texts, h => by
      have hrest := length_le_length_flatMap_segments texts
      have ht := length_segments_pos t.toList
      rw [List.flatMap_cons, List.length_append, List.length_cons] at h
      rw [List.forall_mem_cons]
      exact ⟨slashless_of_length_segments_le (by omega), slashless_of_length_le (by omega)⟩

theorem flatMap_segments_of_slashless {texts : List String} (h : ∀ t ∈ texts, '/' ∉ t.toList) :
    (texts.flatMap fun t => segments t.toList) = texts.map String.toList := by
  rw [List.map_eq_flatMap]
  exact List.flatMap_congr fun t ht => segments_of_slashless (h t ht)

/-- The part of a path before its query and its fragment. -/
def unmarked (cs : List Char) : List Char := cs.takeWhile fun c => c != '?' && c != '#'

theorem unmarked_eq_self_iff {cs : List Char} :
    unmarked cs = cs ↔ ∀ c ∈ cs, c ≠ '?' ∧ c ≠ '#' := by
  rw [unmarked, List.takeWhile_eq_self_iff]
  simp

theorem length_le_length_bytes : ∀ cs : List Char, cs.length ≤ (bytes cs).length
  | [] => Nat.le_refl _
  | c :: cs => by
      have ih := length_le_length_bytes cs
      have hc := length_utf8EncodeChar_pos c
      rw [bytes_cons, List.length_append, List.length_cons]
      omega

theorem length_bytes_unmarked_le (cs : List Char) :
    (bytes (unmarked cs)).length ≤ (bytes cs).length := by
  obtain ⟨after, hafter⟩ : unmarked cs <+: cs := List.takeWhile_prefix _
  rw [← congrArg bytes hafter, bytes_append, List.length_append]
  exact Nat.le_add_right _ _

/-- **A path that keeps its bytes** has no query and no fragment. -/
theorem unmarked_eq_self_of_le {cs : List Char}
    (h : (bytes cs).length ≤ (bytes (unmarked cs)).length) : unmarked cs = cs := by
  obtain ⟨after, hafter⟩ : unmarked cs <+: cs := List.takeWhile_prefix _
  rw [← congrArg bytes hafter, bytes_append, List.length_append] at h
  have hlength := length_le_length_bytes after
  obtain rfl : after = [] := List.eq_nil_of_length_eq_zero (by omega)
  rw [List.append_nil] at hafter
  exact hafter

/-- Segments without escapes are received as they were meant. -/
theorem map_received {parts : List (List Char)} (h : ∀ p ∈ parts, hasEscape p = false) :
    (parts.map encoded).map unescape = parts.map bytes := by
  rw [List.map_map]
  exact List.map_congr_left fun p hp => unescape_encoded (h p hp)

section Received

variable {before : List (List Char)} {texts : List String}

/-- What is sent for some texts after the segments of a server. -/
def sentParts (before : List (List Char)) (texts : List String) : List (List Char) :=
  before ++ (segments (unmarked (slashed texts))).map encoded

/-- **The parts of a path that arrive as they were meant lost nothing on the way**: what arrives
weighs what was meant, and each step before could only take weight away. -/
theorem lossless_of_received (hne : texts ≠ [])
    (h : (resolve (sentParts before texts)).map unescape =
      before.map unescape ++ texts.map fun t => bytes t.toList) :
    resolve (sentParts before texts) = sentParts before texts ∧
      (∀ p ∈ segments (unmarked (slashed texts)), hasEscape p = false) ∧
      unmarked (slashed texts) = slashed texts := by
  have hcut := length_bytes_unmarked_le (slashed texts)
  have hparts := weight_segments (unmarked (slashed texts))
  have hreceived := weight_received_le (segments (unmarked (slashed texts)))
  have hsent : weight ((sentParts before texts).map unescape) = weight (before.map unescape) +
      weight ((segments (unmarked (slashed texts))).map fun p => unescape (encoded p)) := by
    rw [sentParts, List.map_append, weight_append, List.map_map]
    rfl
  have hmeant : weight ((resolve (sentParts before texts)).map unescape) =
      weight (before.map unescape) + ((bytes (slashed texts)).length + 1) := by
    rw [h, weight_append, weight_slashed hne]
  have hsublist := resolve_sublist (sentParts before texts)
  have hsame := eq_of_sublist_of_weight_le (hsublist.map unescape) (by omega)
  have hlength := congrArg List.length hsame
  rw [List.length_map, List.length_map] at hlength
  rw [hsame] at hmeant
  exact ⟨hsublist.eq_of_length hlength, escapeless_of_weight_le (by omega),
    unmarked_eq_self_of_le (by omega)⟩

theorem isSegment_of_received (hne : texts ≠ [])
    (h : (resolve (sentParts before texts)).map unescape =
      before.map unescape ++ texts.map fun t => bytes t.toList) :
    ∀ t ∈ texts, IsSegment t := by
  obtain ⟨hresolved, hescapeless, hunmarked⟩ := lossless_of_received hne h
  have hlength := congrArg List.length h
  rw [hresolved, sentParts, hunmarked, segments_slashed hne] at hlength
  simp only [List.length_map, List.length_append] at hlength
  have hslashless : ∀ t ∈ texts, '/' ∉ t.toList := slashless_of_length_le (by omega)
  have hparts : segments (slashed texts) = texts.map String.toList := by
    rw [segments_slashed hne, flatMap_segments_of_slashless hslashless]
  rw [hunmarked, hparts] at hescapeless
  intro t ht
  refine ⟨fun c hc => ⟨fun hslash => hslashless t ht (hslash ▸ hc), ?_⟩, fun hdots => ?_,
    hescapeless _ (List.mem_map_of_mem ht)⟩
  · exact unmarked_eq_self_iff.mp hunmarked c (mem_slashed_of_mem hc ht)
  · have hmem : encoded t.toList ∈ resolve (sentParts before texts) := by
      rw [hresolved, sentParts, hunmarked, hparts]
      exact List.mem_append_right _ (List.mem_map_of_mem (List.mem_map_of_mem ht))
    exact not_isDots_of_mem_resolve hmem (isDots_encoded.mpr hdots)

/-- **Texts that stay segments arrive as they are.** -/
theorem received_of_isSegment (hbefore : ∀ p ∈ before, ¬ IsDots p) (hne : texts ≠ [])
    (h : ∀ t ∈ texts, IsSegment t) :
    (resolve (sentParts before texts)).map unescape =
      before.map unescape ++ texts.map fun t => bytes t.toList := by
  have hslashless : ∀ t ∈ texts, '/' ∉ t.toList := fun t ht hmem =>
    ((h t ht).unmarked '/' hmem).1 rfl
  have hunmarked : unmarked (slashed texts) = slashed texts := by
    refine unmarked_eq_self_iff.mpr fun c hc => ?_
    rcases mem_slashed hc with rfl | ⟨t, ht, hc⟩
    · decide
    · exact ((h t ht).unmarked c hc).2
  have hsent : sentParts before texts = before ++ (texts.map String.toList).map encoded := by
    rw [sentParts, hunmarked, segments_slashed hne, flatMap_segments_of_slashless hslashless]
  have hdotless : ∀ p ∈ sentParts before texts, ¬ IsDots p := by
    rw [hsent, List.forall_mem_append, List.forall_mem_map, List.forall_mem_map]
    exact ⟨hbefore, fun t ht => isDots_encoded.not.mpr (h t ht).dotless⟩
  rw [resolve_of_dotless hdotless, hsent, List.map_append, map_received, List.map_map]
  · rfl
  · rw [List.forall_mem_map]
    exact fun t ht => (h t ht).escapeless

end Received

end AdminConsole.Http.Address
