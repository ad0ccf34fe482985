import Mathlib.Data.List.DropRight
import Mathlib.Data.List.Sort
import Profiling.Proofs.QueryCodec
import Profiling.Source

/-!
# Canonical locators

The canonical URL of a source differs from the URL that the source is read as in its query alone:
the parameters are ordered by key, and a duration takes the place of any that the query had. What
is canonical stays as it is, with the same timeout.
-/

namespace Profiling

namespace Url

/-- No question mark stands before the fragment. -/
def Queryless (cs : List Char) : Prop := '?' ∉ cs.takeWhile (· ≠ '#')

namespace Queryless

variable {cs : List Char}

theorem cons {c : Char} (other : c ≠ '?') (h : Queryless cs) : Queryless (c :: cs) := by
  rw [Queryless, List.takeWhile_cons]
  split
  · exact List.not_mem_cons_of_ne_of_not_mem other.symm h
  · exact List.not_mem_nil

theorem tail {c : Char} (inside : c ≠ '#') (h : Queryless (c :: cs)) : c ≠ '?' ∧ Queryless cs := by
  rw [Queryless, List.takeWhile_cons, if_pos (by simpa using inside), List.mem_cons, not_or] at h
  exact ⟨Ne.symm h.1, h.2⟩

/-- What is passed over holds no question mark. -/
theorem of_dropWhile {p : Char → Bool} (other : ∀ c, p c = true → c ≠ '?')
    (h : Queryless (cs.dropWhile p)) : Queryless cs := by
  induction cs with
  | nil => exact h
  | cons c cs ih =>
    rw [List.dropWhile_cons] at h
    split at h
    · rename_i passed
      exact (ih h).cons (other c passed)
    · exact h

theorem of_filter {p : Char → Bool} (other : ∀ c, p c = false → c ≠ '?')
    (h : Queryless (cs.filter p)) : Queryless cs := by
  induction cs with
  | nil => exact h
  | cons c cs ih =>
    cases kept : p c with
    | false =>
      rw [List.filter_cons_of_neg (by simp [kept])] at h
      exact (ih h).cons (other c kept)
    | true =>
      rw [List.filter_cons_of_pos kept] at h
      by_cases inside : c = '#'
      · simp [Queryless, inside]
      · obtain ⟨mark, rest⟩ := h.tail inside
        exact (ih rest).cons mark

theorem append {ds : List Char} (h : Queryless cs) (other : '?' ∉ ds) : Queryless (cs ++ ds) := by
  induction cs with
  | nil => exact fun mark => other ((List.takeWhile_prefix _).subset mark)
  | cons c cs ih =>
    by_cases inside : c = '#'
    · simp [Queryless, inside]
    · obtain ⟨mark, rest⟩ := h.tail inside
      exact (ih rest).cons mark

end Queryless

theorem queryless_of_strip {text : String} (h : Queryless (strip text)) :
    Queryless text.toList := by
  have blank : ∀ c : Char, decide (c.toNat ≤ 32) = true → c ≠ '?' := by
    rintro c low rfl
    revert low
    decide
  have inner := h.of_filter (by
    rintro c dropped rfl
    revert dropped
    decide)
  refine Queryless.of_dropWhile blank ?_
  rw [← List.rdropWhile_append_rtakeWhile (p := fun c : Char => decide (c.toNat ≤ 32))
    (l := text.toList.dropWhile fun c => decide (c.toNat ≤ 32))]
  refine Queryless.append inner ?_
  intro mark
  have low := List.mem_rtakeWhile_imp mark
  exact blank _ low rfl

theorem queryless_of_splitTail {cs : List Char} (none : (splitTail cs).2.1 = none) :
    Queryless cs := by
  intro mark
  have passed : (cs.takeWhile (· ≠ '#')).dropWhile (· ≠ '?') = [] := by
    simp only [splitTail] at none
    split at none
    · cases none
    · assumption
  have other := List.dropWhile_eq_nil_iff.mp passed '?' mark
  exact absurd other (by decide)

theorem queryless_of_withTail {u : Url} {cs : List Char} (none : (withTail u cs).query = none) :
    Queryless cs := by
  have query := Option.map_eq_none_iff.mp none
  exact queryless_of_splitTail query

theorem ne_mark_of_isSlash {kind : SchemeKind} {c : Char} (slash : isSlash kind c = true) :
    c ≠ '?' := by
  rintro rfl
  revert slash
  cases kind <;> decide

theorem ne_mark_of_inside {kind : SchemeKind} {c : Char}
    (inside : (!endsAuthority kind c) = true) : c ≠ '?' := by
  rintro rfl
  revert inside
  cases kind <;> decide

theorem queryless_of_readHostUrl {scheme : String} {cs : List Char} {u : Url}
    (read : readHostUrl scheme cs = .ok u) (none : u.query = none) : Queryless cs := by
  rw [readHostUrl] at read
  dsimp only at read
  split at read
  · cases read
  · obtain rfl := Except.ok.inj read
    exact (queryless_of_withTail none).of_dropWhile fun _ => ne_mark_of_inside

theorem queryless_of_readFileUrl {cs : List Char} {u : Url} (read : readFileUrl cs = .ok u)
    (none : u.query = none) : Queryless cs := by
  rw [readFileUrl.eq_def] at read
  dsimp only at read
  split at read
  · rename_i a b rest
    split at read
    · rename_i slashes
      obtain ⟨slashA, slashB⟩ := Bool.and_eq_true_iff.mp slashes
      refine .cons (ne_mark_of_isSlash slashA) (.cons (ne_mark_of_isSlash slashB) ?_)
      have after (h : Queryless (rest.dropWhile (!endsAuthority .file ·))) : Queryless rest :=
        h.of_dropWhile fun _ => ne_mark_of_inside
      split at read
      · obtain rfl := Except.ok.inj read
        exact queryless_of_withTail none
      split at read
      · obtain rfl := Except.ok.inj read
        exact after (queryless_of_withTail none)
      split at read
      · cases read
      · obtain rfl := Except.ok.inj read
        exact after (queryless_of_withTail none)
    · obtain rfl := Except.ok.inj read
      exact queryless_of_withTail none
  · obtain rfl := Except.ok.inj read
    exact queryless_of_withTail none

theorem queryless_of_readScheme? {cs rest : List Char} {scheme : String}
    (read : readScheme? cs = some (scheme, rest)) (h : Queryless rest) : Queryless cs := by
  rw [readScheme?] at read
  split at read
  · rename_i c more rest' _ colon
    split at read
    · obtain ⟨-, rfl⟩ := Prod.mk.inj (Option.some.inj read)
      have after : Queryless (cs.dropWhile isSchemeChar) := by
        rw [colon]
        exact h.cons (by decide)
      refine after.of_dropWhile ?_
      rintro c letter rfl
      revert letter
      decide
    · cases read
  · cases read

/-- Text that is read as a URL without a query has no question mark before the fragment. -/
theorem queryless_of_parse {text : String} {u : Url} (read : parse text = .ok u)
    (none : u.query = none) : Queryless text.toList := by
  refine queryless_of_strip ?_
  rw [parse] at read
  split at read
  · cases read
  · rename_i scheme rest named
    refine queryless_of_readScheme? named ?_
    split at read
    · exact queryless_of_readFileUrl read none
    · have after := queryless_of_readHostUrl read none
      exact after.of_dropWhile fun _ => ne_mark_of_isSlash
    · split at read
      · refine .cons (by decide) (.cons (by decide) ?_)
        exact queryless_of_readHostUrl read none
      · obtain rfl := Except.ok.inj read
        have query := Option.map_eq_none_iff.mp none
        exact queryless_of_splitTail query

end Url

namespace Source

open Url

/-- The key of the first parameter is not after that of the second. -/
def KeysInOrder (p q : Parameter) : Prop := String.ofList p.1 ≤ String.ofList q.1

instance (p q : Parameter) : Decidable (KeysInOrder p q) :=
  inferInstanceAs (Decidable (_ ≤ _))

instance : Std.Total KeysInOrder := ⟨fun _ _ => String.le_total _ _⟩

instance : IsTrans Parameter KeysInOrder := ⟨fun _ _ _ => String.le_trans⟩

theorem insertByKey_eq (p : Parameter) (ps : List Parameter) :
    insertByKey p ps = ps.orderedInsert KeysInOrder p := by
  induction ps with
  | nil => rfl
  | cons q ps ih =>
    rw [insertByKey, List.orderedInsert_cons, ih]
    by_cases after : String.ofList q.1 < String.ofList p.1
    · have behind : ¬KeysInOrder p q := fun before => before after
      rw [if_pos after, if_neg behind]
    · have before : KeysInOrder p q := after
      rw [if_neg after, if_pos before]

theorem sortByKey_eq (ps : List Parameter) : sortByKey ps = ps.insertionSort KeysInOrder :=
  congrArg (fun insert => ps.foldr insert []) (funext₂ insertByKey_eq)

/-- The parameters in the order of their keys, those of one key in the order that they had. -/
structure Arranged (given out : List Parameter) : Prop where
  ordered : out.Pairwise KeysInOrder
  stable : ∀ key, out.filter (·.1 = key) = given.filter (·.1 = key)

theorem inOrder_of_key_eq {p q : Parameter} (same : p.1 = q.1) : KeysInOrder p q := by
  have text : String.ofList p.1 = String.ofList q.1 := congrArg String.ofList same
  change String.ofList p.1 ≤ String.ofList q.1
  exact text ▸ String.le_refl _

/-- The library's insertion sort keeps parameters of one key, which are in order already. -/
theorem arranged_sortByKey (ps : List Parameter) : Arranged ps (sortByKey ps) := by
  rw [sortByKey_eq]
  refine ⟨List.pairwise_insertionSort _ _, ?_⟩
  intro key
  have same : (ps.filter (·.1 = key)).Pairwise KeysInOrder := by
    refine List.pairwise_of_forall_mem_list ?_
    intro p hp q hq
    have keyP : p.1 = key := by simpa using (List.mem_filter.mp hp).2
    have keyQ : q.1 = key := by simpa using (List.mem_filter.mp hq).2
    exact inOrder_of_key_eq (keyP.trans keyQ.symm)
  have kept := (List.sublist_insertionSort same List.filter_sublist).filter (·.1 = key)
  have count := ((List.perm_insertionSort KeysInOrder ps).filter (·.1 = key)).length_eq
  refine (List.Sublist.eq_of_length ?_ count.symm).symm
  simpa using kept

/-- No other parameter comes before the first of those that are in order. -/
theorem first_inOrder {p q : Parameter} {ps qs : List Parameter}
    (ordered : (p :: ps).Pairwise KeysInOrder)
    (same : ∀ key, (p :: ps).filter (·.1 = key) = (q :: qs).filter (·.1 = key)) :
    KeysInOrder p q := by
  have member : q ∈ (p :: ps).filter (·.1 = q.1) := by simp [same]
  rcases List.mem_cons.mp (List.mem_filter.mp member).1 with rfl | later
  · exact inOrder_of_key_eq rfl
  · exact List.rel_of_pairwise_cons ordered later

theorem eq_of_ordered {ps qs : List Parameter} (hp : ps.Pairwise KeysInOrder)
    (hq : qs.Pairwise KeysInOrder)
    (same : ∀ key, ps.filter (·.1 = key) = qs.filter (·.1 = key)) : ps = qs := by
  induction ps generalizing qs with
  | nil =>
    cases qs with
    | nil => rfl
    | cons q qs => simpa using same q.1
  | cons p ps ih =>
    cases qs with
    | nil => simpa using same p.1
    | cons q qs =>
      have key : p.1 = q.1 := by
        have text := String.le_antisymm (first_inOrder hp same)
          (first_inOrder hq fun key => (same key).symm)
        simpa using congrArg String.toList text
      have heads := same p.1
      simp only [List.filter_cons, key, decide_true, if_true, List.cons.injEq] at heads
      obtain ⟨rfl, -⟩ := heads
      refine congrArg (p :: ·) (ih hp.of_cons hq.of_cons fun k => ?_)
      by_cases here : p.1 = k <;> simpa [here] using same k

/-- The first parameter of a key stays the first of it. -/
theorem queryDuration_of_stable {ps qs : List Parameter}
    (same : ∀ key, ps.filter (·.1 = key) = qs.filter (·.1 = key)) :
    queryDuration ps = queryDuration qs := by
  rw [queryDuration, queryDuration, ← List.head?_filter, ← List.head?_filter, same]

/-- What a query has after a duration was put into it. -/
theorem filter_withSeconds (duration : Duration) (ps : List Parameter) (key : List Char) :
    (withSeconds duration ps).filter (·.1 = key) =
      if key = secondsKey then [(secondsKey, (toString duration.seconds).toList)]
      else ps.filter (·.1 = key) := by
  rw [withSeconds, List.filter_append, List.filter_filter]
  by_cases seconds : key = secondsKey
  · subst seconds
    simp
  · have alone : [(secondsKey, (toString duration.seconds).toList)].filter (·.1 = key) = [] := by
      simp [Ne.symm seconds]
    rw [if_neg seconds, alone, List.append_nil]
    refine List.filter_congr fun p _ => ?_
    by_cases here : p.1 = key <;> simp [here, seconds]

/-- The parameters that are asked for: a duration takes the place of one in the query. -/
def wanted (duration : Duration) (ps : List Parameter) : List Parameter :=
  if duration.isZero then ps else withSeconds duration ps

theorem filter_wanted (duration : Duration) (ps : List Parameter) (key : List Char) :
    (wanted duration ps).filter (·.1 = key) =
      if key = secondsKey ∧ duration.isZero = false then
        [(secondsKey, (toString duration.seconds).toList)]
      else ps.filter (·.1 = key) := by
  rw [wanted]
  cases lasting : duration.isZero with
  | true => simp
  | false => simp [filter_withSeconds]

/-- Asking again changes nothing. -/
theorem sortByKey_wanted (duration : Duration) (ps : List Parameter) :
    sortByKey (wanted duration (sortByKey (wanted duration ps))) =
      sortByKey (wanted duration ps) := by
  have once := arranged_sortByKey (wanted duration ps)
  have twice := arranged_sortByKey (wanted duration (sortByKey (wanted duration ps)))
  refine eq_of_ordered twice.ordered once.ordered fun key => ?_
  rw [twice.stable, filter_wanted]
  split
  · rename_i seconds
    rw [once.stable, filter_wanted, if_pos seconds]
  · rfl

theorem parameters_withParameters (u : Url) (ps : List Parameter) :
    (u.withParameters ps).parameters = ps := by
  cases ps with
  | nil => rfl
  | cons p ps =>
    simp only [parameters, withParameters, List.isEmpty_cons, Bool.false_eq_true, if_false,
      Option.getD_some, String.toList_ofList]
    exact readQuery_writeQuery (p :: ps)

/-- The duration that a timeout is made of. -/
def lasting (duration : Duration) (ps : List Parameter) : Duration :=
  if duration.isZero then queryDuration ps else duration

theorem remote?_eq_ok_iff {source : String} {duration timeout : Duration} {r : Remote} :
    remote? source duration timeout = .ok (some r) ↔ ∃ u, url? source = some u ∧
      timeoutFor (lasting duration u.parameters) timeout = .ok r.timeout ∧
      r.url = u.withParameters (sortByKey (wanted duration u.parameters)) := by
  rw [remote?]
  cases url? source with
  | none => simp
  | some u =>
    obtain ⟨url, given⟩ := r
    let canonical := u.withParameters (sortByKey (wanted duration u.parameters))
    change (timeoutFor (lasting duration u.parameters) timeout).bind
      (fun t => .ok (some (Remote.mk canonical t))) = .ok (some (Remote.mk url given)) ↔ _
    cases timed : timeoutFor (lasting duration u.parameters) timeout with
    | error e => simp [timed, Except.bind]
    | ok t => simp [timed, Except.bind, and_comm, eq_comm, canonical]

/-- Only a source without a URL is taken for a file. -/
theorem remote?_eq_none_iff {source : String} {duration timeout : Duration} :
    remote? source duration timeout = .ok none ↔ url? source = none := by
  rw [remote?]
  cases url? source with
  | none => simp
  | some u =>
    change (timeoutFor (lasting duration u.parameters) timeout).bind
      (fun t => .ok (some (Remote.mk _ t))) = .ok none ↔ _
    cases timeoutFor (lasting duration u.parameters) timeout <;> simp [Except.bind]

/-- The first duration of a query stays the first. -/
theorem lasting_of_stable (duration : Duration) {ps qs : List Parameter}
    (same : duration.isZero = true → ∀ key, ps.filter (·.1 = key) = qs.filter (·.1 = key)) :
    lasting duration ps = lasting duration qs := by
  rw [lasting, lasting]
  split
  · rename_i zero
    exact queryDuration_of_stable (same zero)
  · rfl

/-- A URL that is read back from its text is taken as it is. -/
theorem url?_render {u : Url} (back : Url.parse u.render = .ok u) (hosted : u.host.isSome) :
    url? u.render = some u := by
  simp [url?, anyUrl?, back, hosted]

structure Canonical (duration : Duration) (given out : List Parameter) : Prop where
  ordered : out.Pairwise KeysInOrder
  stable : ∀ key ≠ secondsKey, out.filter (·.1 = key) = given.filter (·.1 = key)
  replaced : duration.isZero = false →
    out.filter (·.1 = secondsKey) = [(secondsKey, (toString duration.seconds).toList)]
  kept : duration.isZero = true →
    out.filter (·.1 = secondsKey) = given.filter (·.1 = secondsKey)

theorem canonical_sortByKey (duration : Duration) (given : List Parameter) :
    Canonical duration given (sortByKey (wanted duration given)) := by
  obtain ⟨ordered, stable⟩ := arranged_sortByKey (wanted duration given)
  refine ⟨ordered, ?_, ?_, ?_⟩
  · intro key other
    rw [stable, filter_wanted, if_neg (fun seconds => other seconds.1)]
  · intro positive
    rw [stable, filter_wanted, if_pos ⟨rfl, positive⟩]
  · intro zero
    rw [stable, filter_wanted, if_neg (by simp [zero])]

/-- The canonical URL of a source keeps all but the query of the URL that the source is read as,
and the parameters of the query up to their order and the duration. If it is read back from its
text, it is its own canonical URL, with the same timeout, and the text of one without parameters
has no question mark. -/
theorem remote?_canonical {source : String} {duration timeout : Duration} {r : Remote}
    (found : remote? source duration timeout = .ok (some r)) :
    ∃ u, url? source = some u ∧ r.url = { u with query := r.url.query } ∧
      Canonical duration u.parameters r.url.parameters ∧
      (r.url.parameters = [] → r.url.query = none) ∧
      (Url.parse r.url.render = .ok r.url →
        (r.url.parameters = [] → Queryless r.url.render.toList) ∧
          remote? r.url.render duration timeout = .ok (some r)) := by
  obtain ⟨u, read, timed, made⟩ := remote?_eq_ok_iff.mp found
  let ps := sortByKey (wanted duration u.parameters)
  have asked : r.url.parameters = ps := by
    rw [made]
    exact parameters_withParameters u ps
  have bare : r.url.parameters = [] → r.url.query = none := by
    intro nothing
    rw [made, show sortByKey _ = [] from asked.symm.trans nothing]
    rfl
  refine ⟨u, read, ?_, ?_, bare, ?_⟩
  · rw [made]
    rfl
  · rw [asked]
    exact canonical_sortByKey duration u.parameters
  intro back
  constructor
  · intro nothing
    exact queryless_of_parse back (bare nothing)
  · have hosted : r.url.host.isSome := by
      rw [made]
      exact (Option.filter_eq_some_iff.mp read).2
    apply remote?_eq_ok_iff.mpr
    refine ⟨r.url, url?_render back hosted, ?_, ?_⟩
    · have same : lasting duration r.url.parameters = lasting duration u.parameters := by
        refine lasting_of_stable duration fun zero key => ?_
        rw [asked, (arranged_sortByKey _).stable, wanted, if_pos zero]
      rw [same]
      exact timed
    · rw [asked, sortByKey_wanted]
      conv_lhs => rw [made]
      conv_rhs => rw [made]
      rfl

def halfMinute : Remote where
  url :=
    { scheme := "http", host := some (.ipv6 [0, 0, 0, 0, 0, 0, 0, 1]), port := some 6060,
      path := "/profile", query := some "a=+&seconds=30&z=1", fragment := some "top?x" }
  timeout := .ofSeconds 45

theorem remote?_canonical_halfMinute :
    remote? "[::1]:6060/profile?z=1&seconds=5&a=%20&seconds=7#top?x" (.ofSeconds 30) .zero =
      .ok (some halfMinute) ∧
    halfMinute.url.render = "http://[::1]:6060/profile?a=+&seconds=30&z=1#top?x" ∧
    halfMinute.url.parameters.filter (·.1 = secondsKey) = [(secondsKey, "30".toList)] ∧
    remote? halfMinute.url.render (.ofSeconds 30) .zero = .ok (some halfMinute) := by
  have found :
      remote? "[::1]:6060/profile?z=1&seconds=5&a=%20&seconds=7#top?x" (.ofSeconds 30) .zero =
        .ok (some halfMinute) := by
    decide +kernel
  have back : Url.parse halfMinute.url.render = .ok halfMinute.url := by decide +kernel
  obtain ⟨_, -, -, canonical, -, again⟩ := remote?_canonical found
  exact ⟨found, by decide +kernel, canonical.replaced (by decide), (again back).2⟩

end Source

end Profiling
