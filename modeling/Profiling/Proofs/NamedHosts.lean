import Profiling.Proofs.CanonicalUrls
import Profiling.Proofs.Reading

/-!
# Hosts that sources name

A source of the web that makes sense as a URL is fetched from the server that it names. One that
makes none is read again as the address of a web server, and what stands before its first colon,
the name of its scheme, is then taken for the host.
-/

namespace Profiling

namespace Unicode

def asciiDirections : List (Nat × String) :=
  [(9, "BN"), (1, "S"), (1, "B"), (1, "S"), (1, "WS"), (1, "B"), (14, "BN"), (3, "B"), (1, "S"),
   (1, "WS"), (2, "ON"), (3, "ET"), (5, "ON"), (1, "ES"), (1, "CS"), (1, "ES"), (2, "CS"),
   (10, "EN"), (1, "CS"), (6, "ON"), (26, "L"), (6, "ON"), (26, "L"), (4, "ON"), (6, "BN")]

/-- Only the first line of the table has to be read for them. -/
theorem directionRuns_eq : ∃ runs, directionRuns = asciiDirections ++ runs := by
  rw [directionRuns, directionTable, String.toList_join, List.flatMap_cons]
  generalize List.flatMap String.toList _ = others
  simp [readRuns, asciiDirections]

theorem valueAt_append {n : Nat} {runs : List (Nat × String)} {name : String}
    (known : valueAt n runs = some name) (more : List (Nat × String)) :
    valueAt n (runs ++ more) = some name := by
  induction runs generalizing n with
  | nil => cases known
  | cons run runs ih =>
    rw [valueAt] at known
    rw [List.cons_append, valueAt]
    split at known
    · rename_i here
      rw [if_pos here]
      exact known
    · rename_i later
      rw [if_neg later]
      exact ih known

/-- No ASCII character is written from right to left. -/
theorem hasRightToLeft_ascii {cs : List Char} (ascii : ∀ c ∈ cs, c.toNat < 128) :
    hasRightToLeft cs = false := by
  have all : ∀ n < 128, (valueAt n asciiDirections).any
      (fun name => !(["R", "AL", "AN"].contains name)) = true := by
    decide +kernel
  obtain ⟨runs, start⟩ := directionRuns_eq
  refine List.any_eq_false.mpr fun c member => ?_
  obtain ⟨name, known, other⟩ := (Option.any_eq_true _ _).mp (all c.toNat (ascii c member))
  rw [direction, start, valueAt_append known]
  simpa using other

end Unicode

namespace Url

section

variable {c : Char} (low : 97 ≤ c.toNat) (high : c.toNat ≤ 122)
include low high

theorem mapHostChar_letter : Unicode.mapHostChar c = some [c] := by
  have lower : c.toLower = c := dif_neg fun upper => by
    have := UInt32.le_iff_toNat_le.mp upper.2
    change c.toNat ≤ 90 at this
    omega
  rw [Unicode.mapHostChar, if_pos (by omega), lower]

theorem deniedInName_letter : deniedInName c = false := by
  have denied : ∀ d ∈ "%#/:<>?@[\\]^|".toList, d.toNat < 97 ∨ 122 < d.toNat := by
    simp
  simp only [deniedInName, Bool.or_eq_false_iff, decide_eq_false_iff_not, List.contains_eq_mem]
  refine ⟨⟨by omega, by omega⟩, fun member => ?_⟩
  have := denied c member
  omega

end

/-- A name of small letters is its own ASCII form. -/
theorem asciiName_letters {name : List Char} (letters : ∀ c ∈ name, 97 ≤ c.toNat ∧ c.toNat ≤ 122) :
    asciiName name = some name := by
  have ascii : ∀ c ∈ name, c.toNat < 128 := fun c member => by
    have := letters c member
    omega
  have absent : ∀ d : Char, d.toNat < 97 → d ∉ name := fun d low member => by
    have := letters d member
    omega
  have mapped : name.mapM Unicode.mapHostChar = some (name.map ([·])) := by
    refine mapM_eq_some_iff.mpr (List.forall₂_map_right_iff.mpr (List.forall₂_same.mpr ?_))
    exact fun c member => mapHostChar_letter (letters c member).1 (letters c member).2
  have composed : Unicode.compose name = name := by
    refine if_pos (List.all_eq_true.mpr fun c member => decide_eq_true ?_)
    have := letters c member
    omega
  have one : name.splitOn '.' = [name] := List.splitOn_eq_singleton (absent '.' (by decide))
  have opened : [name].mapM openLabel = some [name] := by
    have unmarked : ¬acePrefix.isPrefixOf name = true := fun marked =>
      absent '-' (by decide) ((List.isPrefixOf_iff_prefix.mp marked).subset (by simp [acePrefix]))
    rw [List.mapM_cons, openLabel, if_neg unmarked]
    rfl
  have plain : name.all (·.toNat < 128) = true :=
    List.all_eq_true.mpr fun c member => decide_eq_true (ascii c member)
  have allowed : name.any deniedInName = false :=
    List.any_eq_false.mpr fun c member => by
      simp [deniedInName_letter (letters c member).1 (letters c member).2]
  have together : (name.map ([·])).flatten = name := List.flatMap_singleton' name
  have directed : Unicode.hasRightToLeft name = false := Unicode.hasRightToLeft_ascii ascii
  simp only [asciiName, mapped, Option.bind_eq_bind, Option.bind_some, together, composed, one,
    opened, List.all_cons, List.all_nil, List.any_cons, List.any_nil, plain, directed, allowed,
    Bool.true_or, Bool.or_false, Bool.not_false, Bool.and_self, if_true, List.map_cons,
    List.map_nil, List.intercalate_singleton, closeLabel]

/-- The name of a scheme makes a host. -/
theorem parse?_scheme {scheme : String} (web : scheme = "http" ∨ scheme = "https") :
    Host.parse? scheme.toList = some (.name scheme) := by
  have letters : ∀ c ∈ scheme.toList, 97 ≤ c.toNat ∧ c.toNat ≤ 122 := by
    rcases web with rfl | rfl <;> simp
  have text : String.fromUTF8? (decode scheme.toList).toByteArray = some scheme := by
    rcases web with rfl | rfl <;> decide +kernel
  have unbracketed : Host.bracketed? scheme.toList = none := by
    rcases web with rfl | rfl <;> rfl
  have word : endsInNumber scheme.toList = false := by
    rcases web with rfl | rfl <;> decide +kernel
  have filled : scheme ≠ "" := by
    rcases web with rfl | rfl <;> decide
  simp [Host.parse?, unbracketed, text, asciiName_letters letters, word, filled]

def ending (cs : List Char) : List Char :=
  (cs.rdropWhile fun c => c.toNat ≤ 32).filter fun c => c ≠ '\t' && c ≠ '\n' && c ≠ '\r'

theorem rdropWhile_append {p : Char → Bool} {front rest : List Char}
    (other : ∀ c ∈ front, p c = false) :
    (front ++ rest).rdropWhile p = front ++ rest.rdropWhile p := by
  have stays : front.reverse.dropWhile p = front.reverse := by
    refine List.dropWhile_eq_self_iff.mpr fun some_char => ?_
    simpa using other _ (List.mem_reverse.mp (List.getElem_mem some_char))
  rw [List.rdropWhile, List.rdropWhile, List.reverse_append, List.dropWhile_append, stays]
  split
  · rename_i nothing
    rw [List.isEmpty_iff.mp nothing]
    simp
  · simp

/-- Only what follows a visible beginning can lose anything. -/
theorem ending_append {front : List Char} (visible : ∀ c ∈ front, 32 < c.toNat)
    (rest : List Char) : ending (front ++ rest) = front ++ ending rest := by
  have trailing : (front ++ rest).rdropWhile (fun c => decide (c.toNat ≤ 32)) =
      front ++ rest.rdropWhile fun c => decide (c.toNat ≤ 32) :=
    rdropWhile_append fun c member => by simpa using visible c member
  have kept : front.filter (fun c => c ≠ '\t' && c ≠ '\n' && c ≠ '\r') = front := by
    refine List.filter_eq_self.mpr fun c member => ?_
    have seen := visible c member
    have other : ∀ d : Char, d.toNat ≤ 32 → c ≠ d := by
      rintro d low rfl
      omega
    simp [other]
  rw [ending, trailing, List.filter_append, kept]
  rfl

theorem strip_eq {text : String} {c : Char} {rest : List Char} (start : text.toList = c :: rest)
    (visible : 32 < c.toNat) : strip text = ending text.toList := by
  have leading : text.toList.dropWhile (fun c => decide (c.toNat ≤ 32)) = text.toList := by
    rw [start]
    exact List.dropWhile_cons_of_neg (by simpa using visible)
  change ((text.toList.dropWhile _).rdropWhile _).filter _ = _
  rw [leading]
  rfl

def webStart (scheme : String) : List Char := scheme.toList ++ [':', '/', '/']

theorem readScheme?_web {scheme : String} (web : scheme = "http" ∨ scheme = "https")
    (rest : List Char) : readScheme? (scheme.toList ++ ':' :: rest) = some (scheme, rest) := by
  have letters : ∀ c ∈ scheme.toList, isSchemeChar c = true := by
    rcases web with rfl | rfl <;> simp [isSchemeChar]
  have colon : isSchemeChar ':' = false := by decide
  have name : (scheme.toList ++ ':' :: rest).takeWhile isSchemeChar = scheme.toList := by
    rw [List.takeWhile_append_of_pos letters, List.takeWhile_cons_of_neg (by simp [colon]),
      List.append_nil]
  have others : (scheme.toList ++ ':' :: rest).dropWhile isSchemeChar = ':' :: rest := by
    rw [List.dropWhile_append_of_pos letters, List.dropWhile_cons_of_neg (by simp [colon])]
  rw [readScheme?, name, others]
  rcases web with rfl | rfl <;> rfl

theorem schemeKind_web {scheme : String} (web : scheme = "http" ∨ scheme = "https") :
    schemeKind scheme = .web := by
  rcases web with rfl | rfl <;> decide

theorem visible_webStart {scheme : String} (web : scheme = "http" ∨ scheme = "https") :
    ∀ c ∈ webStart scheme, 32 < c.toNat := by
  rcases web with rfl | rfl <;> simp [webStart]

/-- A text that starts like a URL of the web is read as one. -/
theorem parse_web {text scheme : String} (web : scheme = "http" ∨ scheme = "https")
    {rest : List Char} (start : text.toList = webStart scheme ++ rest) :
    parse text = readHostUrl scheme ((ending rest).dropWhile (isSlash .web)) := by
  have stripped : strip text = scheme.toList ++ ':' :: '/' :: '/' :: ending rest := by
    have first : ∃ others, text.toList = 'h' :: others := by
      rw [start]
      rcases web with rfl | rfl <;> exact ⟨_, rfl⟩
    obtain ⟨others, first⟩ := first
    rw [strip_eq first (by decide), start, ending_append (visible_webStart web), webStart,
      List.append_assoc]
    rfl
  have slash : isSlash .web '/' = true := by decide
  rw [parse, stripped, readScheme?_web web]
  simp only [schemeKind_web web]
  rw [List.dropWhile_cons_of_pos slash, List.dropWhile_cons_of_pos slash]

structure SameServer (u v : Url) : Prop where
  scheme : u.scheme = v.scheme
  host : u.host = v.host
  port : u.port = v.port

theorem SameServer.trans {u v w : Url} (h : u.SameServer v) (h' : v.SameServer w) :
    u.SameServer w :=
  ⟨h.scheme.trans h'.scheme, h.host.trans h'.host, h.port.trans h'.port⟩

theorem sameServer_withTail (u : Url) (cs : List Char) : (withTail u cs).SameServer u :=
  ⟨rfl, rfl, rfl⟩

theorem sameServer_withParameters (u : Url) (ps : List Parameter) :
    (u.withParameters ps).SameServer u :=
  ⟨rfl, rfl, rfl⟩

theorem render_ne_nil {host : Host} (named : host.isEmpty = false) : host.render ≠ [] := by
  cases host with
  | name text => simpa [Host.isEmpty, Host.render] using named
  | ipv4 address => simp [Host.render, writeIpv4]
  | ipv6 groups => exact List.cons_ne_nil _ _

/-- On the web there is no authority without a host. -/
theorem host_of_readAuthority? {scheme : String} (web : schemeKind scheme = .web) {cs : List Char}
    {a : Authority} (read : readAuthority? scheme cs = some a) :
    ∃ host, a.host = some host ∧ host.isEmpty = false := by
  simp only [readAuthority?, web, if_true, Option.bind_eq_bind, Option.bind_eq_some_iff] at read
  obtain ⟨host, -, port, -, read⟩ := read
  split at read
  · cases read
  · rename_i filled
    have named : host.isEmpty = false := by simpa [web] using filled
    obtain rfl := Option.some.inj read
    exact ⟨host, by simp [named], named⟩

theorem hostText_of_readHostUrl {scheme : String} (web : schemeKind scheme = .web)
    {cs : List Char} {u : Url} (read : readHostUrl scheme cs = .ok u) : u.hostText ≠ "" := by
  rw [readHostUrl] at read
  dsimp only at read
  split at read
  · cases read
  · rename_i a authority
    obtain ⟨host, named, filled⟩ := host_of_readAuthority? web authority
    have text : u.hostText = String.ofList host.render := by
      rw [← Except.ok.inj read, hostText, (sameServer_withTail _ _).host, named]
      rfl
    rw [text]
    simpa using render_ne_nil filled

theorem fault_of_readHostUrl {scheme : String} {cs : List Char} {fault : ParseError}
    (read : readHostUrl scheme cs = .error fault) : fault = .invalid := by
  rw [readHostUrl] at read
  dsimp only at read
  split at read
  · exact (Except.error.inj read).symm
  · cases read

theorem isSome_of_hostText {u : Url} (hosted : u.hostText ≠ "") : u.host.isSome = true := by
  rw [Option.isSome_iff_ne_none]
  intro missing
  exact hosted (by rw [hostText, missing]; rfl)

/-- The name of a scheme and its colon are read as a host without a port. -/
theorem readAuthority?_scheme {scheme : String} (web : scheme = "http" ∨ scheme = "https") :
    readAuthority? "http" (scheme.toList ++ [':']) =
      some { username := "", password := "", host := some (.name scheme), port := none } := by
  have user : splitUser (scheme.toList ++ [':']) = (none, scheme.toList ++ [':']) := by
    rcases web with rfl | rfl <;> decide
  have port : splitPort false (scheme.toList ++ [':']) = (scheme.toList, [':']) := by
    rcases web with rfl | rfl <;> decide
  have filled : (Host.name scheme).isEmpty = false := by
    rcases web with rfl | rfl <;> decide
  have kind : schemeKind "http" = .web := by decide
  rw [readAuthority?]
  simp only [user, port, parse?_scheme web, kind]
  simp [filled, readPort?, encode]

/-- After another scheme the name of a scheme is a host: what follows its colon, where a port would
stand, is a slash. -/
theorem readHostUrl_scheme {scheme : String} (web : scheme = "http" ∨ scheme = "https")
    (rest : List Char) :
    readHostUrl "http" (webStart scheme ++ rest) =
      .ok (withTail { scheme := "http", host := some (.name scheme) } ('/' :: '/' :: rest)) := by
  have kind : schemeKind "http" = .web := by decide
  have apart : webStart scheme ++ rest = (scheme.toList ++ [':']) ++ '/' :: '/' :: rest := by
    simp [webStart]
  have inside : ∀ c ∈ scheme.toList ++ [':'], (!endsAuthority .web c) = true := by
    rcases web with rfl | rfl <;> simp [endsAuthority, isSlash]
  have ended : ('/' :: '/' :: rest).takeWhile (fun c => !endsAuthority .web c) = [] := rfl
  have tail : ('/' :: '/' :: rest).dropWhile (fun c => !endsAuthority .web c) =
      '/' :: '/' :: rest :=
    rfl
  simp only [readHostUrl, kind, apart]
  rw [List.takeWhile_append_of_pos inside, List.dropWhile_append_of_pos inside, ended, tail,
    List.append_nil, readAuthority?_scheme web]

end Url

namespace Source

open Url

/-- The name of a scheme as the host of a web server, with all that follows the scheme's colon as
the path on it. -/
def misread (scheme : String) (rest : List Char) : Url :=
  withTail { scheme := "http", host := some (.name scheme) } ('/' :: '/' :: ending rest)

/-- Every source that starts like a URL of the web has a URL: the one that is written if that makes
sense, and otherwise one on a server that has the name of the scheme. -/
theorem url?_web {source scheme : String} (web : scheme = "http" ∨ scheme = "https")
    {rest : List Char} (start : source.toList = webStart scheme ++ rest) :
    (∃ u, Url.parse source = .ok u ∧ u.hostText ≠ "" ∧ url? source = some u) ∨
      Url.parse source = .error .invalid ∧ url? source = some (misread scheme rest) := by
  have read := parse_web web start
  have again : Url.parse ("http://" ++ source) = .ok (misread scheme rest) := by
    have front : ("http://" ++ source).toList = webStart "http" ++ source.toList := by
      simp [webStart]
    have first : (webStart scheme ++ ending rest).dropWhile (isSlash .web) =
        webStart scheme ++ ending rest := by
      rcases web with rfl | rfl <;> rfl
    rw [parse_web (Or.inl rfl) front, start, ending_append (visible_webStart web), first,
      readHostUrl_scheme web]
    rfl
  cases parsed : Url.parse source with
  | error fault =>
    have invalid : fault = .invalid := fault_of_readHostUrl (read.symm.trans parsed)
    subst invalid
    refine Or.inr ⟨rfl, ?_⟩
    rw [url?, anyUrl?, parsed]
    simp only [webUrl?, again, Except.toOption]
    rfl
  | ok u =>
    have hosted : u.hostText ≠ "" :=
      hostText_of_readHostUrl (schemeKind_web web) (read.symm.trans parsed)
    refine Or.inl ⟨u, rfl, hosted, ?_⟩
    simp [url?, anyUrl?, parsed, isSome_of_hostText hosted]

/-- A source that starts like a URL of the web is never taken for a file. If it makes sense as a URL
it is fetched from the server that it names, and otherwise from one that it does not name: the web
server on the usual port of a host that is called like the scheme. -/
theorem remote?_server {source scheme : String} (web : scheme = "http" ∨ scheme = "https")
    (start : (scheme ++ "://").toList <+: source.toList) (duration timeout : Duration) :
    remote? source duration timeout ≠ .ok none ∧
      ∀ r, remote? source duration timeout = .ok (some r) →
        (∃ u, Url.parse source = .ok u ∧ u.hostText ≠ "" ∧ r.url.SameServer u) ∨
          Url.parse source = .error .invalid ∧
            r.url.SameServer { scheme := "http", host := some (.name scheme) } := by
  obtain ⟨rest, start⟩ := start
  have front : source.toList = webStart scheme ++ rest := by
    rw [← start, String.toList_append]
    rfl
  have found := url?_web web front
  constructor
  · rw [ne_eq, remote?_eq_none_iff]
    rcases found with ⟨u, -, -, own⟩ | ⟨-, other⟩
    · simp [own]
    · simp [other]
  · intro r asked
    obtain ⟨u, read, -, made⟩ := remote?_eq_ok_iff.mp asked
    have kept : r.url.SameServer u := made ▸ sameServer_withParameters u _
    rcases found with ⟨v, parsed, hosted, own⟩ | ⟨invalid, other⟩
    · obtain rfl : u = v := Option.some.inj (read.symm.trans own)
      exact Or.inl ⟨u, parsed, hosted, kept⟩
    · obtain rfl : u = misread scheme rest := Option.some.inj (read.symm.trans other)
      exact Or.inr ⟨invalid, kept.trans (sameServer_withTail _ _)⟩

def secured : Remote where
  url :=
    { scheme := "https", username := "me", host := some (.ipv6 [0, 0, 0, 0, 0, 0, 0, 1]),
      port := some 8443, path := "/profile", query := some "a=&b=" }
  timeout := defaultTimeout

theorem remote?_server_secured :
    ("https" ++ "://").toList <+: "https://me@[::1]:8443/profile?b&a".toList ∧
      remote? "https://me@[::1]:8443/profile?b&a" .zero .zero = .ok (some secured) ∧
      ∃ u, Url.parse "https://me@[::1]:8443/profile?b&a" = .ok u ∧ u.hostText ≠ "" ∧
        secured.url.SameServer u := by
  have start : ("https" ++ "://").toList <+: "https://me@[::1]:8443/profile?b&a".toList :=
    ⟨"me@[::1]:8443/profile?b&a".toList, by decide⟩
  have found : remote? "https://me@[::1]:8443/profile?b&a" .zero .zero = .ok (some secured) := by
    decide +kernel
  have sensible : Url.parse "https://me@[::1]:8443/profile?b&a" ≠ .error .invalid := by
    decide +kernel
  refine ⟨start, found, ?_⟩
  rcases (remote?_server (Or.inr rfl) start .zero .zero).2 secured found with own | ⟨invalid, -⟩
  · exact own
  · exact absurd invalid sensible

def strayed : Remote where
  url := { scheme := "http", host := some (.name "https"), path := "//[::1]:99999/x" }
  timeout := defaultTimeout

/-- A source that cannot be read is fetched from a server whose name it does not hold. -/
theorem remote?_strays :
    Url.parse "https://[::1]:99999/x" = .error .invalid ∧
      remote? "https://[::1]:99999/x" .zero .zero = .ok (some strayed) ∧
      strayed.url.render = "http://https//[::1]:99999/x" := by
  have invalid : Url.parse "https://[::1]:99999/x" = .error .invalid := by decide +kernel
  have start : "https://[::1]:99999/x".toList = webStart "https" ++ "[::1]:99999/x".toList := by
    decide
  refine ⟨invalid, ?_, by decide +kernel⟩
  rcases url?_web (Or.inr rfl) start with ⟨u, parsed, -⟩ | ⟨-, read⟩
  · rw [invalid] at parsed
    cases parsed
  · exact remote?_eq_ok_iff.mpr ⟨_, read, by decide +kernel, by decide +kernel⟩

end Source

end Profiling
