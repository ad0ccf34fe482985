import Profiling.Symbolize

/-!
# What a run finds out

Files and servers as they answer the questions of a run, where each answer may depend on all that
was asked before. A run keeps what it has learned, and its result can be compared with that.
-/

namespace Profiling

inductive Finding
  | presence (path : String) (present : Bool)
  | content (path : String) (result : Except DiskError (List UInt8))
  | reply (request : HttpRequest) (response : Option HttpResponse)

/-- Files and servers that may change from one question to the next. -/
structure World where
  isFile : List Finding → String → Bool
  readFile : List Finding → String → Except DiskError (List UInt8)
  answer : List Finding → HttpRequest → Option HttpResponse

def World.machine (w : World) : Machine (StateM (List Finding)) where
  readFile path := fun found =>
    (w.readFile found path, found ++ [.content path (w.readFile found path)])
  isFile path := fun found => (w.isFile found path, found ++ [.presence path (w.isFile found path)])
  names _ := pure []
  createDirectories _ := pure (.error .notPermitted)
  createNew _ := pure (.error .notPermitted)
  write _ _ := pure (.error .notPermitted)
  removeFile _ := pure (.error .notFound)
  tempDirectory := pure "/tmp"
  scratchFile _ _ := pure (.error .notPermitted)
  run _ _ := pure (.error .notFound)
  exchange request := fun found =>
    (w.answer found request, found ++ [.reply request (w.answer found request)])
  print _ := pure ()
  warn _ := pure ()

/-- A run adds to what was found, and its result has a property that may speak of all that was
found in the end. -/
def Finds (found : List Finding) (holds : List Finding → α → Prop) (x : StateM (List Finding) α) :
    Prop :=
  found <+: (x.run found).2 ∧ holds (x.run found).2 (x.run found).1

namespace Finds

variable {found : List Finding} {first : List Finding → α → Prop} {last : List Finding → β → Prop}

theorem pure {a : α} (h : first found a) : Finds found first (Pure.pure a) :=
  ⟨List.prefix_rfl, h⟩

theorem bind {x : StateM (List Finding) α} {f : α → StateM (List Finding) β}
    (h : Finds found first x)
    (next : ∀ found' a, found <+: found' → first found' a → Finds found' last (f a)) :
    Finds found last (x >>= f) := by
  obtain ⟨more, here⟩ := h
  obtain ⟨more', there⟩ := next _ _ more here
  exact ⟨more.trans more', there⟩

end Finds

section

variable (w : World) (found : List Finding)

theorem finds_isFile (path : String) : Finds found (fun _ _ => True) (w.machine.isFile path) :=
  ⟨List.prefix_append _ _, trivial⟩

theorem finds_readFile (path : String) :
    Finds found (fun found result => .content path result ∈ found) (w.machine.readFile path) :=
  ⟨List.prefix_append _ _, List.mem_append_right _ (List.mem_singleton_self _)⟩

theorem finds_exchange (request : HttpRequest) :
    Finds found (fun found response => .reply request response ∈ found)
      (w.machine.exchange request) :=
  ⟨List.prefix_append _ _, List.mem_append_right _ (List.mem_singleton_self _)⟩

end

/-- A server was asked about addresses, and these are the names in its answer. -/
def Answered (found : List Finding) (url : Url) (addresses : List UInt64) (names : Symbolz.Names) :
    Prop :=
  ∃ request response body, .reply request (some response) ∈ found ∧ url = request.url ∧
    request.post = some (Symbolz.request addresses) ∧ response.isFailure = false ∧
    response.body = some body ∧ names = Symbolz.parse (String.ofList (Url.lossyText body))

section

variable (w : World) (found : List Finding)

theorem finds_openFile (path : String) :
    Finds found (fun found result => ∀ binary, result = .ok binary → ∃ content,
      .content path (.ok content) ∈ found ∧ DebugFile.ofImage content.toArray = .ok binary)
      (DebugFile.openFile w.machine path) := by
  rw [DebugFile.openFile]
  refine .bind (finds_readFile w found path) fun found result _ read => ?_
  cases result with
  | error e => exact .pure fun _ opened => nomatch opened
  | ok content => exact .pure fun binary opened => ⟨content, read, opened⟩

theorem finds_askNames (patience : Symbolize.Patience) (url : Url) (addresses : List UInt64) :
    Finds found
      (fun found names? => ∀ names, names? = some names → Answered found url addresses names)
      (Symbolize.askNames w.machine patience url addresses) := by
  rw [Symbolize.askNames]
  refine .bind (finds_exchange w found _) fun found result _ reply => ?_
  cases result with
  | none => exact .pure fun _ none => nomatch none
  | some response =>
    dsimp only
    split
    · exact .pure fun _ none => nomatch none
    · rename_i fine
      refine .pure fun names read => ?_
      obtain ⟨body, content, parsed⟩ := Option.map_eq_some_iff.mp read
      exact ⟨_, response, body, reply, rfl, rfl, Bool.eq_false_iff.mpr fine, content, parsed.symm⟩

end

end Profiling
