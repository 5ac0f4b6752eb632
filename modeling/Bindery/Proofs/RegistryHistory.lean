import Bindery.Proofs.Grouping
import Bindery.Proofs.Registration

/-!
# The history of a registry

Requests to register enumerations may come from several trees, repeat each
other, clash, or lack a name.  What a registry holds after them, what it
answered and how often it warned can be read off the list of the requests: the
first request of a name makes the entry, and no later one changes it.
-/

namespace Bindery

/-- A request to register an enumeration of some tree. -/
structure EnumRequest where
  tree : SymbolTree
  node : NodeId
  deriving DecidableEq, Repr

namespace EnumRequest

/-- The name that the enumeration asks for. -/
def name? (request : EnumRequest) : Option String :=
  (request.tree.node request.node).name

/-- The entry that the request makes under a name. -/
def entry (request : EnumRequest) (name : String) : EnumBinding :=
  EnumRegistry.entryFor request.tree name request.node

/-- The request that made the entry of a name, which is the first one of that
name. -/
def maker? (past : List EnumRequest) (name : String) : Option EnumRequest :=
  past.find? fun request => request.name? = some name

/-- Whether no request before had the name of a request. -/
def isFirst (past : List EnumRequest) (request : EnumRequest) : Bool :=
  request.name?.any fun name => past.all fun earlier => earlier.name? ≠ some name

/-- Whether another node holds the name of a request.  Nodes are compared by
their numbers, also those of different trees. -/
def clashes (past : List EnumRequest) (request : EnumRequest) : Bool :=
  request.name?.any fun name => (maker? past name).any fun first => first.node ≠ request.node

/-- Requests, each with those before it. -/
def withPast (past : List EnumRequest) :
    List EnumRequest → List (List EnumRequest × EnumRequest)
  | [] => []
  | request :: rest => (past, request) :: withPast (past ++ [request]) rest

theorem withPast_concat (past requests : List EnumRequest) (request : EnumRequest) :
    withPast past (requests ++ [request]) =
      withPast past requests ++ [(past ++ requests, request)] := by
  induction requests generalizing past with
  | nil => simp [withPast]
  | cons first rest ih => simp [withPast, ih]

theorem maker?_concat (past : List EnumRequest) (request : EnumRequest) (name : String) :
    maker? (past ++ [request]) name =
      (maker? past name).or (if request.name? = some name then some request else none) := by
  rw [maker?, List.find?_append]
  by_cases named : request.name? = some name <;> simp [maker?, named]

/-- A request is the first of its name if nothing made an entry of that name. -/
theorem isFirst_eq {past : List EnumRequest} {request : EnumRequest} {name : String}
    (named : request.name? = some name) : isFirst past request = (maker? past name).isNone := by
  rw [isFirst, named, Option.any_some, maker?, Bool.eq_iff_iff, List.all_eq_true,
    Option.isNone_iff_eq_none, List.find?_eq_none]
  simp only [decide_eq_true_eq]

theorem clashes_eq {past : List EnumRequest} {request : EnumRequest} {name : String}
    (named : request.name? = some name) :
    clashes past request = (maker? past name).any fun first => first.node ≠ request.node := by
  rw [clashes, named, Option.any_some]

end EnumRequest

namespace EnumRegistry

open EnumRequest

/-- Serve requests one after another.  There is an answer to each request. -/
def serve (registry : EnumRegistry) : List EnumRequest → EnumRegistry × List Bool × Diagnostics
  | [] => (registry, [], [])
  | request :: rest =>
      let (next, added, findings) := registry.register request.tree request.node
      let (last, answers, later) := next.serve rest
      (last, added :: answers, findings ++ later)

theorem serve_concat (registry : EnumRegistry) (past : List EnumRequest) (request : EnumRequest) :
    registry.serve (past ++ [request]) =
      (((registry.serve past).1.register request.tree request.node).1,
        (registry.serve past).2.1 ++
          [((registry.serve past).1.register request.tree request.node).2.1],
        (registry.serve past).2.2 ++
          ((registry.serve past).1.register request.tree request.node).2.2) := by
  induction past generalizing registry with
  | nil => simp [serve]
  | cons first rest ih => simp [serve, ih]

/-! ## One request -/

/-- A request that adds nothing changes nothing. -/
theorem register_of_refused {registry : EnumRegistry} {tree : SymbolTree} {id : NodeId}
    (refused : (registry.register tree id).2.1 = false) :
    (registry.register tree id).1 = registry := by
  cases named : (tree.node id).name with
  | none => rw [register, named]
  | some name =>
      cases found : registry.get? name with
      | some first => rw [register_of_taken named found]
      | none =>
          rw [register_of_new named found] at refused
          cases refused

/-- A name that is new comes after the others. -/
theorem keys_register (registry : EnumRegistry) (tree : SymbolTree) (id : NodeId) :
    (registry.register tree id).1.keys =
      match (tree.node id).name with
      | none => registry.keys
      | some name =>
          if name ∈ registry.keys then registry.keys else registry.keys ++ [name] := by
  cases named : (tree.node id).name with
  | none => rw [register, named]
  | some name =>
      dsimp only
      cases found : registry.get? name with
      | some first =>
          have taken : name ∈ registry.keys := by
            rw [← OrderedMap.contains_iff_mem_keys, OrderedMap.contains, found]
            rfl
          rw [register_of_taken named found, if_pos taken]
      | none => rw [register_of_new named found, OrderedMap.keys_insert]

/-- The entry of a name after some requests. -/
theorem get?_serve (requests : List EnumRequest) (name : String) :
    (serve {} requests).1.get? name = (maker? requests name).map fun first => first.entry name := by
  induction requests using List.reverseRecOn with
  | nil => rfl
  | append_singleton past request ih =>
      rw [serve_concat, get?_register, ih, maker?_concat]
      change (Option.map _ _).or (if request.name? = some name then some (request.entry name)
        else none) = _
      split
      · cases maker? past name <;> rfl
      · rw [Option.or_none, Option.or_none]

theorem keys_serve (requests : List EnumRequest) :
    (serve {} requests).1.keys = (requests.filterMap name?).eraseDups := by
  induction requests using List.reverseRecOn with
  | nil => rfl
  | append_singleton past request ih =>
      rw [serve_concat, keys_register, ih, List.filterMap_append]
      change (match request.name? with | none => _ | some name => _) = _
      cases named : request.name? with
      | none => simp [named]
      | some name =>
          rw [List.filterMap_cons, named, List.filterMap_nil]
          exact (eraseDups_concat _ _).symm

/-- Every finding about a request is a warning. -/
theorem warnings_register (registry : EnumRegistry) (tree : SymbolTree) (id : NodeId) :
    Diagnostics.warnings (registry.register tree id).2.2 = (registry.register tree id).2.2 := by
  unfold register
  dsimp only
  split
  · rfl
  · split
    · split <;> rfl
    · rfl

/-- The answer to a request after others, and the number of the findings about
it. -/
theorem register_after (past : List EnumRequest) (request : EnumRequest) :
    ((serve {} past).1.register request.tree request.node).2.1 = isFirst past request ∧
      ((serve {} past).1.register request.tree request.node).2.2.length =
        (if request.name?.isNone then 1 else 0) + if clashes past request then 1 else 0 := by
  cases named : request.name? with
  | none =>
      have anonymous : (request.tree.node request.node).name = none := named
      simp [register, anonymous, isFirst, clashes, named]
  | some name =>
      rw [isFirst_eq named, clashes_eq named]
      cases made : maker? past name with
      | none =>
          have vacant : (serve {} past).1.get? name = none := by
            rw [get?_serve, made]
            rfl
          rw [register_of_new named vacant]
          exact ⟨rfl, rfl⟩
      | some first =>
          have taken : (serve {} past).1.get? name = some (first.entry name) := by
            rw [get?_serve, made]
            rfl
          rw [register_of_taken named taken]
          refine ⟨rfl, ?_⟩
          change List.length (if first.node = request.node then [] else _) = _
          by_cases same : first.node = request.node <;> simp [same]

/-! ## All requests -/

theorem answers_serve (requests : List EnumRequest) :
    (serve {} requests).2.1 =
      (withPast [] requests).map fun (past, request) => isFirst past request := by
  induction requests using List.reverseRecOn with
  | nil => rfl
  | append_singleton past request ih =>
      rw [serve_concat, withPast_concat, List.map_append, ← ih, (register_after past request).1]
      rfl

theorem length_warnings_serve (requests : List EnumRequest) :
    (Diagnostics.warnings (serve {} requests).2.2).length =
      requests.countP (fun request => request.name?.isNone) +
        (withPast [] requests).countP fun (past, request) => clashes past request := by
  induction requests using List.reverseRecOn with
  | nil => rfl
  | append_singleton past request ih =>
      rw [serve_concat, Diagnostics.warnings_append, List.length_append, ih, warnings_register,
        (register_after past request).2, withPast_concat, List.countP_append, List.countP_append,
        List.countP_singleton, List.countP_singleton]
      simp only [List.nil_append]
      omega

theorem nodup_keys_serve (requests : List EnumRequest) : (serve {} requests).1.keys.Nodup := by
  induction requests using List.reverseRecOn with
  | nil => exact List.nodup_nil
  | append_singleton past request ih =>
      rw [serve_concat]
      exact nodup_keys_register request.tree ih request.node

/-- The entry of a name is made of the first request of that name. -/
theorem mem_entries_serve_iff (requests : List EnumRequest) (name : String)
    (binding : EnumBinding) :
    (name, binding) ∈ (serve {} requests).1.entries ↔
      ∃ past first later, requests = past ++ first :: later ∧ first.name? = some name ∧
        (∀ earlier ∈ past, earlier.name? ≠ some name) ∧ binding = first.entry name := by
  rw [OrderedMap.mem_entries_iff (nodup_keys_serve requests), get?_serve, Option.map_eq_some_iff]
  simp only [maker?, List.find?_eq_some_iff_append]
  constructor
  · rintro ⟨first, ⟨named, past, later, rfl, others⟩, rfl⟩
    exact ⟨past, first, later, rfl, of_decide_eq_true named,
      fun earlier member => by simpa using others earlier member, rfl⟩
  · rintro ⟨past, first, later, rfl, named, others, rfl⟩
    exact ⟨first, ⟨decide_eq_true named, past, later, rfl,
      fun earlier member => by simpa using others earlier member⟩, rfl⟩

/-- What requests leave behind in a registry that was empty before them. -/
structure Remembers (requests : List EnumRequest) (registry : EnumRegistry)
    (answers : List Bool) (findings : Diagnostics) : Prop where
  /-- There is one entry for each name, in the order in which the names are first
  asked for. -/
  names : registry.keys = (requests.filterMap name?).eraseDups
  /-- An entry tells of the enumeration that asked for its name first. -/
  entry : ∀ name binding, (name, binding) ∈ registry.entries ↔
    ∃ past first later, requests = past ++ first :: later ∧ first.name? = some name ∧
      (∀ earlier ∈ past, earlier.name? ≠ some name) ∧
      binding = ⟨name, first.node, (first.tree.node first.node).address,
        first.tree.enumerators first.node⟩
  answers : answers = (withPast [] requests).map fun (past, request) => isFirst past request
  /-- A request that adds no entry leaves the entries as they were. -/
  refused : ∀ past request later, requests = past ++ request :: later →
    ((serve {} past).1.register request.tree request.node).2.1 = false →
      ((serve {} past).1.register request.tree request.node).1 = (serve {} past).1
  warnings : (Diagnostics.warnings findings).length =
    requests.countP (fun request => request.name?.isNone) +
      (withPast [] requests).countP fun (past, request) => clashes past request

/-- Every sequence of requests is remembered so. -/
theorem serve_remembers (requests : List EnumRequest) :
    Remembers requests (serve {} requests).1 (serve {} requests).2.1
      (serve {} requests).2.2 where
  names := keys_serve requests
  entry := mem_entries_serve_iff requests
  answers := answers_serve requests
  refused := fun _ _ _ _ refused => register_of_refused refused
  warnings := length_warnings_serve requests

end EnumRegistry

end Bindery
