import AdminConsole.Proofs.Http.Segments
import Mathlib.Data.List.TakeDrop

/-!
# Proofs/Http/Joined — the path of a joined address

A base is a server's address as a client keeps it: it ends with a slash, its path is as it is sent,
and its dots are resolved (`IsBase`).  Joining it with a path cuts the path at its marks, sends what
is left after the segments of the base, and resolves the dots (`segments_join`).
-/

namespace AdminConsole.Http.Address

/-! ## Characters that are sent as they are -/

theorem encode_ofList (cs : List Char) :
    encode isPlainInPath (String.ofList cs) = String.ofList (encoded cs) := by
  rw [encode, String.toList_ofList]
  rfl

theorem encoded_of_plain : ∀ {cs : List Char}, (∀ c ∈ cs, isPlainInPath c = true) → encoded cs = cs
  | [], _ => rfl
  | c :: cs, h => by
      rw [List.forall_mem_cons] at h
      rw [encoded_cons, encodeChar_of_plain h.1, encoded_of_plain h.2, List.singleton_append]

theorem plain_of_mem_encoded {cs : List Char} {d : Char} (h : d ∈ encoded cs) :
    isPlainInPath d = true := by
  obtain ⟨c, -, hd⟩ := List.mem_flatMap.mp h
  by_cases hc : isPlainInPath c = true
  · rw [encodeChar_of_plain hc] at hd
    exact List.mem_singleton.mp hd ▸ hc
  · rw [encodeChar_of_not_plain hc] at hd
    obtain ⟨b, -, hb⟩ := List.mem_flatMap.mp hd
    have hdigit : ∀ n < 16, isPlainInPath (upperHex n) = true := by decide
    have hsize : b.toNat < 256 := b.toNat_lt
    rcases List.mem_cons.mp hb with rfl | hb
    · decide
    · rcases List.mem_cons.mp hb with rfl | hb
      · exact hdigit _ (by omega)
      · exact List.mem_singleton.mp hb ▸ hdigit _ (by omega)

theorem encoded_encoded (cs : List Char) : encoded (encoded cs) = encoded cs :=
  encoded_of_plain fun _ => plain_of_mem_encoded

/-! ## Resolved paths -/

/-- The segments of a path without dots; no segment at all is the empty path. -/
theorem segments_withoutDots (path : String) :
    segments (withoutDots path).toList = resolve (segments path.toList) ∨
      resolve (segments path.toList) = [] ∧ withoutDots path = "" := by
  rw [withoutDots_eq]
  by_cases h : resolve (segments path.toList) = []
  · exact .inr ⟨h, by rw [h]; rfl⟩
  · exact .inl (segments_joined h fun p hp =>
      slashless_of_mem_segments ((resolve_sublist _).subset hp))

theorem mem_of_mem_segments {d : Char} : ∀ {cs part : List Char}, part ∈ segments cs → d ∈ part →
    d ∈ cs
  | [], part, h, hd => List.mem_singleton.mp h ▸ hd
  | c :: cs, part, h, hd => by
      by_cases hc : c = '/'
      · subst hc
        rcases List.mem_cons.mp h with rfl | h
        · nomatch hd
        · exact List.mem_cons_of_mem _ (mem_of_mem_segments h hd)
      · obtain ⟨first, parts, hparts⟩ := List.exists_cons_of_ne_nil (segments_ne_nil cs)
        rw [segments_cons hc hparts] at h
        rcases List.mem_cons.mp h with rfl | h
        · rcases List.mem_cons.mp hd with rfl | hd
          · exact List.mem_cons_self
          · exact List.mem_cons_of_mem _
              (mem_of_mem_segments (hparts ▸ List.mem_cons_self) hd)
        · exact List.mem_cons_of_mem _
            (mem_of_mem_segments (hparts ▸ List.mem_cons_of_mem _ h) hd)

/-! ## Parts of an address -/

theorem exists_of_bind_eq_ok {ε α β : Type} {x : Except ε α} {f : α → Except ε β} {b : β}
    (h : (x >>= f) = .ok b) : ∃ a, x = .ok a ∧ f a = .ok b := by
  cases x with
  | error e => nomatch h
  | ok a => exact ⟨a, rfl, h⟩

/-- **What an address with parts is.** -/
theorem eq_of_withParts {a b : Address} {path : List Char} {query fragment : Option String}
    (h : a.withParts path query fragment = .ok b) :
    b = { a with
      path := String.ofList (encoded
        (if a.isAnchored then (withoutDots (String.ofList path)).toList else path))
      query := query.map (encode isPlainInQuery)
      fragment := fragment.map (encode isPlainInFragment) } := by
  obtain ⟨_, -, hb⟩ := exists_of_bind_eq_ok h
  obtain rfl := Except.ok.inj hb
  split_ifs
  · rfl
  · rw [encode_ofList]

/-- **What an address with another target is**: the target is its path up to a question mark. -/
theorem exists_of_withTarget {a b : Address} {target : String} (h : a.withTarget target = .ok b) :
    ∃ query fragment, a.withParts (target.toList.takeWhile (· != '?')) query fragment = .ok b ∧
      (query = none → target.toList.takeWhile (· != '?') = target.toList) := by
  unfold withTarget at h
  simp only [List.span_eq_takeWhile_dropWhile] at h
  obtain ⟨_, -, h⟩ := exists_of_bind_eq_ok h
  obtain ⟨_, -, h⟩ := exists_of_bind_eq_ok h
  refine ⟨_, _, h, fun hnone => ?_⟩
  have hsplit := List.takeWhile_append_dropWhile (p := (· != '?')) (l := target.toList)
  split at hnone
  · nomatch hnone
  · next hnil => rwa [hnil, List.append_nil] at hsplit

/-! ## Bases -/

/-- An address that paths are joined to: one of a place on the net, that ends with a slash, is as it
is sent and has no dots. -/
structure IsBase (a : Address) : Prop where
  anchored : a.isAnchored = true
  query : a.query = none
  closed : ∃ before, a.target.toList = before ++ ['/']
  plain : ∀ c ∈ a.target.toList, isPlainInPath c = true
  dotless : ∀ p ∈ segments a.target.toList, ¬ IsDots p

theorem target_of_query_none {a : Address} (h : a.query = none) :
    a.target = if a.path.isEmpty then "/" else a.path := by
  rw [target, h]
  simp

/-- A path that was resolved and sent is without dots. -/
theorem dotless_of_path {a : Address} {path : String}
    (h : a.path = String.ofList (encoded (withoutDots path).toList)) (hquery : a.query = none) :
    (∀ c ∈ a.target.toList, isPlainInPath c = true) ∧
      ∀ p ∈ segments a.target.toList, ¬ IsDots p := by
  rw [target_of_query_none hquery]
  split_ifs
  · exact ⟨List.forall_mem_singleton.mpr rfl, by decide⟩
  · rw [h, String.toList_ofList]
    refine ⟨fun _ => plain_of_mem_encoded, ?_⟩
    rw [segments_encoded, List.forall_mem_map]
    rcases segments_withoutDots path with hpath | ⟨-, hpath⟩
    · rw [hpath]
      exact fun p hp => isDots_encoded.not.mpr (not_isDots_of_mem_resolve hp)
    · rw [hpath]
      decide

/-- A path that ends with a slash does so when its dots are resolved, unless it becomes empty. -/
theorem withoutDots_append_slash (cs : List Char) :
    withoutDots (String.ofList (cs ++ ['/'])) = "" ∨
      ∃ before, (withoutDots (String.ofList (cs ++ ['/']))).toList = before ++ ['/'] := by
  have hresolve : resolve (segments (cs ++ ['/'])) = resolve (segments cs) ++ [[]] := by
    rw [segments_append_slash, resolve, List.foldl_append, resolve]
    exact List.reverse_cons
  rw [withoutDots_eq, String.toList_ofList, hresolve, List.map_append]
  cases h : (resolve (segments cs)).map String.ofList with
  | nil => exact .inl rfl
  | cons first parts =>
      refine .inr ⟨(joinTexts "/" (first :: parts)).toList, ?_⟩
      rw [List.map_singleton, joinTexts_concat "/" _ (List.cons_ne_nil _ _), String.toList_append,
        String.toList_append]
      exact List.append_nil _

theorem encoded_append (cs ds : List Char) : encoded (cs ++ ds) = encoded cs ++ encoded ds :=
  List.flatMap_append

theorem exists_of_read {s : String} {a : Address} (h : read s = .ok a) :
    ∃ place path query fragment, withParts place path query fragment = .ok a := by
  unfold read at h
  dsimp only at h
  split at h
  · nomatch h
  · obtain ⟨_, -, h⟩ := exists_of_bind_eq_ok h
    obtain ⟨_, -, h⟩ := exists_of_bind_eq_ok h
    exact ⟨_, _, _, _, h⟩

/-- What was read or closed has its path resolved and sent. -/
theorem path_of_withParts {a b : Address} {path : List Char} {query fragment : Option String}
    (h : a.withParts path query fragment = .ok b) (anchored : b.isAnchored = true) :
    b.path = String.ofList (encoded (withoutDots (String.ofList path)).toList) := by
  obtain rfl := eq_of_withParts h
  have hplace : a.isAnchored = true := anchored
  simp only [hplace, if_true]

/-- **What a client is made of is a base**, unless its address leads nowhere or holds a query. -/
theorem isBase_of_closed {s : String} {base : Address} (h : read s >>= closed = .ok base)
    (anchored : base.isAnchored = true) (hquery : base.query = none) : base.IsBase := by
  obtain ⟨a, hread, hclosed⟩ := exists_of_bind_eq_ok h
  unfold closed at hclosed
  split at hclosed
  · next hlast =>
    obtain rfl := Except.ok.inj hclosed
    obtain ⟨place, path, query, fragment, hparts⟩ := exists_of_read hread
    obtain ⟨hplain, hdotless⟩ := dotless_of_path (path_of_withParts hparts anchored) hquery
    exact ⟨anchored, hquery, List.getLast?_eq_some_iff.mp (beq_iff_eq.mp hlast), hplain, hdotless⟩
  · obtain ⟨query, fragment, hparts, hwhole⟩ := exists_of_withTarget hclosed
    have hnone : query = none := by
      obtain rfl := eq_of_withParts hparts
      exact Option.map_eq_none_iff.mp hquery
    have hpath := path_of_withParts hparts anchored
    rw [hwhole hnone, String.toList_append] at hpath
    obtain ⟨hplain, hdotless⟩ := dotless_of_path hpath hquery
    refine ⟨anchored, hquery, ?_, hplain, hdotless⟩
    rw [target_of_query_none hquery]
    split_ifs with hempty
    · exact ⟨[], rfl⟩
    · have hslash : "/".toList = ['/'] := rfl
      rw [hslash] at hpath
      rcases withoutDots_append_slash a.target.toList with hdots | ⟨before, hdots⟩
      · rw [hpath, hdots] at hempty
        exact absurd rfl hempty
      · refine ⟨encoded before, ?_⟩
        rw [hpath, hdots, encoded_append, String.toList_ofList]
        rfl

/-! ## Joining -/

theorem takeScheme_slash (cs : List Char) : takeScheme ('/' :: cs) = ([], '/' :: cs) := by
  rw [takeScheme, List.span_eq_takeWhile_dropWhile, List.takeWhile_cons_of_neg (by decide),
    List.dropWhile_cons_of_neg (by decide)]
  rfl

theorem takeAuthority_slash {c : Char} (hc : c ≠ '/') (cs : List Char) :
    takeAuthority ('/' :: c :: cs) = ([], '/' :: c :: cs) := by
  unfold takeAuthority
  split
  · next heq =>
    cases heq
    exact absurd rfl hc
  · rfl

theorem readAuthority_nil : readAuthority (String.ofList []).toLower [] = .ok ("", "", none) := by
  decide +kernel

/-- A path of its own is sent up to its marks; its dots have no meaning yet. -/
theorem path_of_read {s : String} {c : Char} {cs : List Char} (hc : c ≠ '/')
    (hs : s.toList = '/' :: c :: cs) {a : Address} (h : read s = .ok a) :
    a.path = String.ofList (encoded (unmarked s.toList)) := by
  unfold read at h
  dsimp only at h
  split at h
  · nomatch h
  · obtain ⟨_, -, h⟩ := exists_of_bind_eq_ok h
    obtain ⟨authority, hauthority, h⟩ := exists_of_bind_eq_ok h
    simp only [hs, takeScheme_slash, takeAuthority_slash hc, List.span_eq_takeWhile_dropWhile]
      at hauthority h
    rw [readAuthority_nil] at hauthority
    obtain rfl := Except.ok.inj hauthority
    have hloose : ({ scheme := (String.ofList []).toLower } : Address).isAnchored = false := by
      decide +kernel
    have ha := congrArg path (eq_of_withParts h)
    rw [ha, hs, hloose]
    rfl

theorem toList_target (a : Address) : ∃ marked, (marked = [] ∨ ∃ query, marked = '?' :: query) ∧
    a.target.toList = (if a.path.isEmpty then "/" else a.path).toList ++ marked := by
  rw [target, String.toList_append]
  refine ⟨_, ?_, rfl⟩
  split
  · exact .inr ⟨_, String.toList_append⟩
  · exact .inl rfl

/-- One slash is taken off what is joined. -/
theorem dropWhile_target {relative : Address} {c : Char} {cs : List Char}
    (hc : c ≠ '/' ∧ c ≠ '?' ∧ c ≠ '#')
    (hpath : relative.path = String.ofList (encoded (unmarked ('/' :: c :: cs)))) :
    ∃ marked, (marked = [] ∨ ∃ query, marked = '?' :: query) ∧
      relative.target.toList.dropWhile (· == '/') = encoded (unmarked (c :: cs)) ++ marked := by
  have hcut : unmarked ('/' :: c :: cs) = '/' :: c :: unmarked cs := by
    rw [unmarked, List.takeWhile_cons_of_pos (by decide),
      List.takeWhile_cons_of_pos (by simp [hc.2])]
    rfl
  have hcut' : unmarked (c :: cs) = c :: unmarked cs := by
    rw [unmarked, List.takeWhile_cons_of_pos (by simp [hc.2])]
    rfl
  obtain ⟨marked, hmarked, htarget⟩ := toList_target relative
  refine ⟨marked, hmarked, ?_⟩
  have hslash : encoded ('/' :: c :: unmarked cs) = '/' :: encoded (c :: unmarked cs) := by
    rw [encoded_cons, encodeChar_of_plain (by decide), List.singleton_append]
  have hhead : ∃ d ds, encoded (c :: unmarked cs) = d :: ds ∧ d ≠ '/' := by
    rw [encoded_cons]
    rcases encodeChar_cases c with ⟨-, hsent⟩ | ⟨-, tail, hsent⟩
    · exact ⟨c, _, by rw [hsent]; rfl, hc.1⟩
    · exact ⟨'%', _, by rw [hsent]; rfl, by decide⟩
  obtain ⟨d, ds, hsent, hd⟩ := hhead
  have hne : relative.path.isEmpty = false := by
    rw [hpath, hcut, hslash]
    simp
  rw [hcut', htarget, hne, if_neg Bool.false_ne_true, hpath, hcut, hslash, String.toList_ofList,
    hsent, List.cons_append, List.dropWhile_cons_of_pos (by decide), List.cons_append,
    List.dropWhile_cons_of_neg (by simpa using hd)]

theorem takeWhile_joined {sent marked : List Char} (hsent : ∀ c ∈ sent, isPlainInPath c = true)
    (hmarked : marked = [] ∨ ∃ query, marked = '?' :: query) :
    (sent ++ marked).takeWhile (· != '?') = sent := by
  rw [List.takeWhile_append_of_pos]
  · rcases hmarked with rfl | ⟨query, rfl⟩
    · exact List.append_nil _
    · exact List.append_nil _
  · intro c hc
    have hplain := hsent c hc
    rw [bne_iff_ne]
    rintro rfl
    exact absurd hplain (by decide)

/-- **The path of a joined address**: the path of the base, then what is sent of the path that is
joined to it, without dots. -/
theorem path_of_join {base a : Address} (hbase : base.IsBase) {path : String} {c : Char}
    {cs : List Char} (hc : c ≠ '/' ∧ c ≠ '?' ∧ c ≠ '#') (hpath : path.toList = '/' :: c :: cs)
    (h : base.join path = .ok a) :
    a.path = String.ofList (encoded (withoutDots (String.ofList
      (base.target.toList ++ encoded (unmarked (c :: cs))))).toList) := by
  obtain ⟨relative, hread, h⟩ := exists_of_bind_eq_ok h
  obtain ⟨query, fragment, hparts, -⟩ := exists_of_withTarget h
  obtain rfl := eq_of_withParts hparts
  obtain ⟨marked, hmarked, hdropped⟩ := dropWhile_target hc
    (hpath ▸ path_of_read hc.1 hpath hread)
  simp only [hbase.anchored, if_true]
  rw [hdropped, String.toList_append, String.toList_ofList, ← List.append_assoc,
    takeWhile_joined _ hmarked]
  intro d hd
  exact (List.mem_append.mp hd).elim (hbase.plain d) plain_of_mem_encoded

/-- The segments of a path as they are received. -/
def received (path : String) : List (List UInt8) := (segments path.toList).map unescape

/-- The segments of a base before those of a path that is joined to it. -/
def root (base : Address) : List (List UInt8) := (received base.target).dropLast

theorem segments_target {base : Address} {before : List Char}
    (h : base.target.toList = before ++ ['/']) :
    segments base.target.toList = segments before ++ [[]] := by
  rw [h, segments_append_slash]
  rfl

theorem root_eq {base : Address} {before : List Char} (h : base.target.toList = before ++ ['/']) :
    base.root = (segments before).map unescape := by
  rw [root, received, segments_target h, List.map_append, List.map_singleton,
    List.dropLast_concat]

/-- What is sent already is not changed by sending it. -/
theorem encoded_of_mem_sentParts {before : List Char} (h : ∀ c ∈ before, isPlainInPath c = true)
    {texts : List String} {p : List Char} (hp : p ∈ sentParts (segments before) texts) :
    encoded p = p := by
  rcases List.mem_append.mp hp with hp | hp
  · exact encoded_of_plain fun c hc => h c (mem_of_mem_segments hp hc)
  · obtain ⟨q, -, rfl⟩ := List.mem_map.mp hp
    exact encoded_encoded q

/-- The segments that arrive are those that were sent, without dots, unless none is left. -/
theorem received_of_join {base a : Address} (hbase : base.IsBase) {texts : List String} {c : Char}
    {cs before : List Char} (hc : c ≠ '/' ∧ c ≠ '?' ∧ c ≠ '#') (htexts : slashed texts = c :: cs)
    (hbefore : base.target.toList = before ++ ['/'])
    (h : base.join (String.ofList ('/' :: slashed texts)) = .ok a) :
    received a.path = (resolve (sentParts (segments before) texts)).map unescape ∨
      resolve (sentParts (segments before) texts) = [] ∧ received a.path = [[]] := by
  have hsent : segments (before ++ ['/'] ++ encoded (unmarked (c :: cs))) =
      sentParts (segments before) texts := by
    rw [List.append_assoc, List.singleton_append, segments_append_slash, segments_encoded, ← htexts]
    rfl
  have hplain : ∀ d ∈ before, isPlainInPath d = true := fun d hd =>
    hbase.plain d (hbefore ▸ List.mem_append_left _ hd)
  have hpath := path_of_join hbase hc (by rw [String.toList_ofList, htexts]) h
  rw [hbefore] at hpath
  rcases segments_withoutDots (String.ofList (before ++ ['/'] ++ encoded (unmarked (c :: cs)))) with
    hresolved | ⟨hnil, hempty⟩
  · rw [String.toList_ofList, hsent] at hresolved
    have hsame : (resolve (sentParts (segments before) texts)).map encoded =
        resolve (sentParts (segments before) texts) := by
      refine (List.map_congr_left fun p hp => ?_).trans (List.map_id _)
      exact encoded_of_mem_sentParts hplain ((resolve_sublist _).subset hp)
    exact .inl (by
      rw [received, hpath, String.toList_ofList, segments_encoded, hresolved, hsame])
  · rw [String.toList_ofList, hsent] at hnil
    exact .inr ⟨hnil, by rw [received, hpath, hempty]; rfl⟩

/-- **A path that is joined arrives segment by segment exactly if each of its texts stays one.** -/
theorem received_join_iff {base a : Address} (hbase : base.IsBase) {texts : List String} {c : Char}
    {cs : List Char} (hc : c ≠ '/' ∧ c ≠ '?' ∧ c ≠ '#') (htexts : slashed texts = c :: cs)
    (hlength : 2 ≤ texts.length) (h : base.join (String.ofList ('/' :: slashed texts)) = .ok a) :
    received a.path = base.root ++ texts.map (fun t => bytes t.toList) ↔
      ∀ t ∈ texts, IsSegment t := by
  obtain ⟨before, hbefore⟩ := hbase.closed
  have hne : texts ≠ [] := List.ne_nil_of_length_pos (by omega)
  have hdotless : ∀ p ∈ segments before, ¬ IsDots p := fun p hp =>
    hbase.dotless p (segments_target hbefore ▸ List.mem_append_left _ hp)
  rw [root_eq hbefore]
  rcases received_of_join hbase hc htexts hbefore h with hreceived | ⟨hnil, hreceived⟩
  · rw [hreceived]
    exact ⟨isSegment_of_received hne, received_of_isSegment hdotless hne⟩
  · -- one empty segment is too short for the texts
    refine iff_of_false (fun heq => ?_) fun hall => ?_
    · have hlengths := congrArg List.length (hreceived.symm.trans heq)
      simp only [List.length_append, List.length_map, List.length_singleton] at hlengths
      omega
    · have heq := received_of_isSegment hdotless hne hall
      rw [hnil] at heq
      have hlengths := congrArg List.length heq
      simp only [List.length_append, List.length_map, List.length_nil] at hlengths
      omega

end AdminConsole.Http.Address
