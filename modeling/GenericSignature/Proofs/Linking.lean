import GenericSignature.Proofs.BackLinks

/-!
# Linking

How type variables get their links, and what becomes of links that are set.

1. Linking one variable sets the links that are given, or one of them is refused because a link of
   its kind is set (`Links.bind_cases`).
2. Linking a record succeeds exactly if no variable in it has a link of a kind that is given and, if
   any is given, no variable occurs twice (`LinkTable.Linkable`).
3. Whatever is linked in whatever order, and whether or not it succeeds, a link is set once and
   stays (`links_set_once`).
4. A variable that is refused keeps the links that it has (`refused_variable_keeps_links`).  It may
   get a method link all the same (`method_link_set_before_refusal`).
-/

namespace GenericSignature

open Grammar

/-! ## The links of one variable -/

namespace Links

/-- The link of a kind. -/
def of (links : Links) : ScopeKind → Option SigId
  | .method => links.method
  | .cls => links.cls

/-- A link that can be set to what is given: if anything is given, it was not set before. -/
def Free (old new : Option SigId) : Prop := new ≠ none → old = none

/-- No link of a kind that is given is set. -/
def Open (links : Links) (method cls : Option SigId) : Prop :=
  Free links.method method ∧ Free links.cls cls

/-- The links that are given, and the old ones of the kinds that are not. -/
def put (links : Links) (method cls : Option SigId) : Links :=
  ⟨method.or links.method, cls.or links.cls⟩

/-- The kind of link that is refused.  The class link is looked at only if the method link is not
refused. -/
def Refuses (links : Links) (method cls : Option SigId) : ScopeKind → Prop
  | .method => method ≠ none ∧ links.method ≠ none
  | .cls => Free links.method method ∧ cls ≠ none ∧ links.cls ≠ none

/-- What a variable is left with when a link is refused.  The method link comes first, so it may be
new. -/
def refused (links : Links) (method : Option SigId) : Links := ⟨links.method.or method, links.cls⟩

/-- Every link that was set before is the same afterwards. -/
def Keeps (before after : Links) : Prop :=
  ∀ kind id, before.of kind = some id → after.of kind = some id

variable {links : Links} {method cls old new : Option SigId}

theorem setOnce_cases (old new : Option SigId) :
    (Free old new ∧ setOnce old new = some (new.or old)) ∨
      (new ≠ none ∧ old ≠ none ∧ setOnce old new = none) := by
  cases new with
  | none => exact .inl ⟨fun given => absurd rfl given, rfl⟩
  | some id =>
      cases old with
      | none => exact .inl ⟨fun _ => rfl, rfl⟩
      | some other => exact .inr ⟨nofun, nofun, rfl⟩

theorem or_comm_of_free (free : Free old new) : new.or old = old.or new := by
  cases new with
  | none => exact (Option.or_none).symm
  | some id => rw [free nofun, Option.none_or, Option.or_none]

theorem or_eq_of_free {id : SigId} (free : Free old new) (found : old = some id) :
    new.or old = some id := by
  rw [or_comm_of_free free]
  exact Option.or_eq_some_iff.mpr (.inl found)

/-- What linking a variable can do. -/
theorem bind_cases (links : Links) (method cls : Option SigId) :
    (links.Open method cls ∧ links.bind method cls = (links.put method cls, none)) ∨
      ∃ kind, links.Refuses method cls kind ∧
        links.bind method cls = (links.refused method, some kind) := by
  unfold bind
  rcases setOnce_cases links.method method with ⟨methodFree, set⟩ | ⟨given, old, set⟩
  · rw [set]
    rcases setOnce_cases links.cls cls with ⟨clsFree, set⟩ | ⟨given, old, set⟩
    · rw [set]
      exact .inl ⟨⟨methodFree, clsFree⟩, rfl⟩
    · rw [set, or_comm_of_free methodFree]
      exact .inr ⟨.cls, ⟨methodFree, given, old⟩, rfl⟩
  · rw [set]
    obtain ⟨id, old⟩ := Option.ne_none_iff_exists'.mp old
    refine .inr ⟨.method, ⟨given, by rw [old]; nofun⟩, ?_⟩
    rw [refused, old, Option.some_or, ← old]

theorem not_open_of_refuses {kind : ScopeKind} (refuses : links.Refuses method cls kind) :
    ¬ links.Open method cls := by
  rintro ⟨methodFree, clsFree⟩
  cases kind with
  | method => exact refuses.2 (methodFree refuses.1)
  | cls => exact refuses.2.2 (clsFree refuses.2.1)

theorem keeps_refused (links : Links) (method : Option SigId) :
    links.Keeps (links.refused method) := by
  intro kind id found
  cases kind with
  | method => exact Option.or_eq_some_iff.mpr (.inl found)
  | cls => exact found

theorem keeps_put (isOpen : links.Open method cls) : links.Keeps (links.put method cls) := by
  intro kind id found
  cases kind with
  | method => exact or_eq_of_free isOpen.1 found
  | cls => exact or_eq_of_free isOpen.2 found

/-- The links of a variable after a refusal.  They are what they were if no method link was to be
set; if one was, it is set, and it was the class link that was refused. -/
def LeftByRefusal (before after : Links) (method cls : Option SigId) : Prop :=
  (method = none ∨ before.method ≠ none → after = before) ∧
    (method ≠ none → before.method = none →
      cls ≠ none ∧ before.cls ≠ none ∧ after = ⟨method, before.cls⟩)

theorem leftByRefusal_of_refuses {kind : ScopeKind} (refuses : links.Refuses method cls kind) :
    links.LeftByRefusal (links.refused method) method cls := by
  obtain ⟨oldMethod, oldCls⟩ := links
  constructor
  · rintro (rfl | set)
    · exact congrArg (Links.mk · oldCls) Option.or_none
    · obtain ⟨id, rfl⟩ := Option.ne_none_iff_exists'.mp set
      rfl
  · rintro given rfl
    cases kind with
    | method => exact absurd rfl refuses.2
    | cls => exact ⟨refuses.2.1, refuses.2.2, rfl⟩

theorem put_put : (links.put method cls).put method cls = links.put method cls := by
  cases method <;> cases cls <;> rfl

/-- What was given is set afterwards, so it cannot be given again. -/
theorem not_open_put (given : method ≠ none ∨ cls ≠ none) :
    ¬ (links.put method cls).Open method cls := by
  rintro ⟨methodOpen, clsOpen⟩
  rcases given with given | given
  · obtain ⟨id, rfl⟩ := Option.ne_none_iff_exists'.mp given
    exact nomatch methodOpen given
  · obtain ⟨id, rfl⟩ := Option.ne_none_iff_exists'.mp given
    exact nomatch clsOpen given

end Links

/-! ## Records -/

section Records

variable {ι : Type}

/-- The type variable that a recorded thing is, if it is one. -/
def Recorded.occurrence? : Recorded ι → Option Occurrence
  | .typeVar occurrence _ => some occurrence
  | .item _ => none

/-- The type variables in a record, in order. -/
def typeVarsIn (recorded : List (Recorded ι)) : List Occurrence :=
  recorded.filterMap Recorded.occurrence?

theorem mem_typeVarsIn {occurrence : Occurrence} {recorded : List (Recorded ι)} :
    occurrence ∈ typeVarsIn recorded ↔ ∃ name, .typeVar occurrence name ∈ recorded := by
  unfold typeVarsIn
  rw [List.mem_filterMap]
  constructor
  · rintro ⟨_ | _, member, ⟨⟩⟩
    exact ⟨_, member⟩
  · rintro ⟨name, member⟩
    exact ⟨_, member, rfl⟩

end Records

namespace LinkTable

variable {ι : Type} {table before middle after : LinkTable} {occurrence : Occurrence}
  {name : String} {method cls : Option SigId} {recorded : List (Recorded ι)} {count : Nat}

/-- Every link of the first table is a link of the second. -/
def Grows (before after : LinkTable) : Prop :=
  ∀ occurrence, (before.get occurrence).Keeps (after.get occurrence)

theorem Grows.refl (table : LinkTable) : table.Grows table := fun _ _ _ => id

theorem Grows.trans (first : before.Grows middle) (second : middle.Grows after) :
    before.Grows after :=
  fun occurrence kind id found => second occurrence kind id (first occurrence kind id found)

theorem grows_set {links : Links} (keeps : (table.get occurrence).Keeps links) :
    table.Grows (table.set occurrence links) := by
  intro other
  rw [get_set]
  split
  · next same =>
      subst same
      exact keeps
  · exact fun _ _ => id

/-- Linking one variable, in the two ways in which it can end. -/
theorem link_cases (table : LinkTable) (occurrence : Occurrence) (name : String)
    (method cls : Option SigId) :
    ((table.get occurrence).Open method cls ∧ table.link occurrence name method cls =
      (table.set occurrence ((table.get occurrence).put method cls), none)) ∨
    ∃ kind, (table.get occurrence).Refuses method cls kind ∧
      table.link occurrence name method cls =
        (table.set occurrence ((table.get occurrence).refused method), some ⟨kind, name⟩) := by
  unfold link
  rcases Links.bind_cases (table.get occurrence) method cls with
    ⟨isOpen, bound⟩ | ⟨kind, refuses, bound⟩
  · rw [bound]
    exact .inl ⟨isOpen, rfl⟩
  · rw [bound]
    exact .inr ⟨kind, refuses, rfl⟩

theorem grows_link (table : LinkTable) (occurrence : Occurrence) (name : String)
    (method cls : Option SigId) : table.Grows (table.link occurrence name method cls).1 := by
  rcases link_cases table occurrence name method cls with ⟨isOpen, linked⟩ | ⟨kind, _, linked⟩
  · rw [linked]
    exact grows_set (Links.keeps_put isOpen)
  · rw [linked]
    exact grows_set (Links.keeps_refused _ method)

/-! ## Linking a record -/

/-- The variables can all be linked, one after the other. -/
def Linkable (table : LinkTable) (vars : List Occurrence) (method cls : Option SigId) : Prop :=
  (∀ occurrence ∈ vars, (table.get occurrence).Open method cls) ∧
    (method ≠ none ∨ cls ≠ none → vars.Nodup)

/-- What is left of a record after its first variable was linked can be linked if the variable does
not occur there again, or if nothing was given that could be refused. -/
theorem linkable_cons {vars : List Occurrence} :
    table.Linkable (occurrence :: vars) method cls ↔
      (table.get occurrence).Open method cls ∧
        (table.set occurrence ((table.get occurrence).put method cls)).Linkable vars method
          cls := by
  let linked := table.set occurrence ((table.get occurrence).put method cls)
  have same : linked.get occurrence = (table.get occurrence).put method cls := by
    rw [get_set, if_pos rfl]
  have other (later : Occurrence) (apart : occurrence ≠ later) :
      linked.get later = table.get later := by
    rw [get_set, if_neg apart]
  constructor
  · rintro ⟨isOpen, distinct⟩
    obtain ⟨first, rest⟩ := List.forall_mem_cons.mp isOpen
    refine ⟨first, fun later member => ?_, fun given => (List.nodup_cons.mp (distinct given)).2⟩
    by_cases given : method ≠ none ∨ cls ≠ none
    · have apart : occurrence ≠ later := by
        rintro rfl
        exact (List.nodup_cons.mp (distinct given)).1 member
      show (linked.get later).Open method cls
      rw [other later apart]
      exact rest later member
    · obtain ⟨noMethod, noCls⟩ := not_or.mp given
      exact ⟨fun some => absurd some noMethod, fun some => absurd some noCls⟩
  · rintro ⟨first, rest, distinct⟩
    refine ⟨List.forall_mem_cons.mpr ⟨first, fun later member => ?_⟩, fun given => ?_⟩
    · by_cases apart : occurrence = later
      · subst apart
        exact first
      · rw [← other later apart]
        exact rest later member
    · refine List.nodup_cons.mpr ⟨fun member => ?_, distinct given⟩
      have again : (linked.get occurrence).Open method cls := rest occurrence member
      rw [same] at again
      exact Links.not_open_put given again

theorem resolveFrom_of_open (isOpen : (table.get occurrence).Open method cls) :
    table.resolveFrom method cls count (.typeVar occurrence name :: recorded) =
      (table.set occurrence ((table.get occurrence).put method cls)).resolveFrom method cls
        (count + 1) recorded := by
  rcases link_cases table occurrence name method cls with ⟨_, linked⟩ | ⟨_, refuses, _⟩
  · rw [resolveFrom, linked]
  · exact absurd isOpen (Links.not_open_of_refuses refuses)

/-- Linking ends at a variable that is refused. -/
theorem resolveFrom_of_closed (closed : ¬ (table.get occurrence).Open method cls)
    (name : String) :
    ∃ linked error, table.resolveFrom method cls count (.typeVar occurrence name :: recorded) =
      (linked, .error error) := by
  rcases link_cases table occurrence name method cls with ⟨isOpen, _⟩ | ⟨kind, _, linked⟩
  · exact absurd isOpen closed
  · exact ⟨_, _, by rw [resolveFrom, linked]⟩

/-- A record that can be linked is linked: every variable in it gets the given links. -/
theorem resolveFrom_of_linkable (linkable : table.Linkable (typeVarsIn recorded) method cls)
    (count : Nat) :
    ∃ after, table.resolveFrom method cls count recorded =
        (after, .ok (count + (typeVarsIn recorded).length)) ∧
      ∀ occurrence ∈ typeVarsIn recorded,
        after.get occurrence = (table.get occurrence).put method cls := by
  induction recorded generalizing table count with
  | nil => exact ⟨table, rfl, nofun⟩
  | cons item recorded ih =>
      cases item with
      | item value => exact ih linkable count
      | typeVar occurrence name =>
          obtain ⟨isOpen, rest⟩ := linkable_cons.mp linkable
          obtain ⟨after, resolved, links⟩ := ih rest (count + 1)
          have length : (typeVarsIn (.typeVar occurrence name :: recorded)).length =
              (typeVarsIn recorded).length + 1 := rfl
          refine ⟨after, ?_, fun other member => ?_⟩
          · rw [resolveFrom_of_open isOpen, resolved, length, Nat.add_assoc, Nat.add_comm 1]
          · by_cases later : other ∈ typeVarsIn recorded
            · rw [links other later, get_set]
              split
              · next same => rw [same, Links.put_put]
              · rfl
            · -- a variable that does not occur again keeps what it was given here
              obtain rfl : other = occurrence := (List.mem_cons.mp member).resolve_right later
              have absent : ∀ name, Recorded.typeVar other name ∉ recorded :=
                fun name found => later (mem_typeVarsIn.mpr ⟨name, found⟩)
              let linked := table.set other ((table.get other).put method cls)
              have kept : (linked.resolveFrom method cls (count + 1) recorded).1.get other =
                  linked.get other := resolveFrom_get_of_not_recorded absent linked (count + 1)
              rw [resolved] at kept
              exact kept.trans (by rw [get_set, if_pos rfl])

theorem resolveFrom_of_not_linkable
    (refused : ¬ table.Linkable (typeVarsIn recorded) method cls) (count : Nat) :
    ∃ error, (table.resolveFrom method cls count recorded).2 = .error error := by
  induction recorded generalizing table count with
  | nil => exact absurd ⟨nofun, fun _ => List.nodup_nil⟩ refused
  | cons item recorded ih =>
      cases item with
      | item value => exact ih refused count
      | typeVar occurrence name =>
          by_cases isOpen : (table.get occurrence).Open method cls
          · rw [resolveFrom_of_open isOpen]
            exact ih (fun linkable => refused (linkable_cons.mpr ⟨isOpen, linkable⟩)) (count + 1)
          · obtain ⟨_, error, failed⟩ := resolveFrom_of_closed isOpen name
            exact ⟨error, by rw [failed]⟩

/-- Linking a record ends at the first variable that is refused; those before it are linked. -/
theorem resolveFrom_stopped {error : ScopeError}
    (failed : table.resolveFrom method cls count recorded = (after, .error error)) :
    ∃ front occurrence name back middle linked,
      recorded = front ++ .typeVar occurrence name :: back ∧
      table.resolveFrom method cls count front = (middle, .ok linked) ∧
      middle.link occurrence name method cls = (after, some error) := by
  induction recorded generalizing table count with
  | nil => exact nomatch failed
  | cons item recorded ih =>
      cases item with
      | item value =>
          obtain ⟨front, occurrence, name, back, middle, linked, rfl, resolved, stopped⟩ :=
            ih failed
          exact ⟨.item value :: front, occurrence, name, back, middle, linked, rfl, resolved,
            stopped⟩
      | typeVar first firstName =>
          rw [resolveFrom] at failed
          rcases link_cases table first firstName method cls with ⟨_, linked⟩ | ⟨_, _, linked⟩
          · rw [linked] at failed
            obtain ⟨front, occurrence, name, back, middle, count, rfl, resolved, stopped⟩ :=
              ih failed
            refine ⟨.typeVar first firstName :: front, occurrence, name, back, middle, count, rfl,
              ?_, stopped⟩
            rw [resolveFrom, linked]
            exact resolved
          · rw [linked] at failed
            cases failed
            exact ⟨[], first, firstName, recorded, table, count, rfl, rfl, linked⟩

theorem grows_resolveFrom (table : LinkTable) (method cls : Option SigId) (count : Nat)
    (recorded : List (Recorded ι)) :
    table.Grows (table.resolveFrom method cls count recorded).1 := by
  induction recorded generalizing table count with
  | nil => exact .refl table
  | cons item recorded ih =>
      cases item with
      | item value => exact ih table count
      | typeVar occurrence name =>
          have grows := grows_link table occurrence name method cls
          rw [resolveFrom]
          split
          · next linked equal =>
              rw [equal] at grows
              exact grows.trans (ih linked (count + 1))
          · next linked error equal =>
              rw [equal] at grows
              exact grows

/-- Linking more of a record changes no link that linking less of it sets. -/
theorem grows_append (table : LinkTable) (method cls : Option SigId) (count : Nat)
    (front back : List (Recorded ι)) :
    (table.resolveFrom method cls count front).1.Grows
      (table.resolveFrom method cls count (front ++ back)).1 := by
  induction front generalizing table count with
  | nil => exact grows_resolveFrom table method cls count back
  | cons item front ih =>
      cases item with
      | item value => exact ih table count
      | typeVar occurrence name =>
          rw [List.cons_append, resolveFrom, resolveFrom]
          rcases link_cases table occurrence name method cls with ⟨_, linked⟩ | ⟨_, _, linked⟩
          · rw [linked]
            exact ih _ (count + 1)
          · rw [linked]
            exact .refl _

end LinkTable

/-! ## Requests -/

/-- A request to link the recorded type variables to the given signatures. -/
structure LinkRequest (ι : Type) where
  recorded : List (Recorded ι)
  method : Option SigId
  cls : Option SigId

section Requests

variable {ι : Type} {session : Session} {request : LinkRequest ι}

namespace LinkRequest

/-- The operation that is asked for. -/
def perform (request : LinkRequest ι) : SessionM Nat :=
  SessionM.resolve request.recorded request.method request.cls

/-- The session after a request, whether it is granted or refused. -/
def after (request : LinkRequest ι) (session : Session) : Session :=
  (request.perform.outcome session).2

/-- The request for the first things in the record only. -/
def first (request : LinkRequest ι) (count : Nat) : LinkRequest ι :=
  { request with recorded := request.recorded.take count }

/-- All variables of the request can be linked. -/
def Grantable (request : LinkRequest ι) (session : Session) : Prop :=
  session.links.Linkable (typeVarsIn request.recorded) request.method request.cls

theorem outcome_perform (request : LinkRequest ι) (session : Session) :
    request.perform.outcome session =
      ((session.links.resolveFrom request.method request.cls 0 request.recorded).2.mapError .scope,
        { session with
          links := (session.links.resolveFrom request.method request.cls 0 request.recorded).1 }) :=
  SessionM.outcome_resolve _ _ _ _

theorem links_after (request : LinkRequest ι) (session : Session) :
    (request.after session).links =
      (session.links.resolveFrom request.method request.cls 0 request.recorded).1 := by
  unfold after
  rw [outcome_perform]

/-- A request that can be granted is granted. -/
theorem answers_of_grantable (grantable : request.Grantable session) :
    ∃ after, request.perform.Answers session (typeVarsIn request.recorded).length after ∧
      ∀ occurrence ∈ typeVarsIn request.recorded, after.links.get occurrence =
        (session.links.get occurrence).put request.method request.cls := by
  obtain ⟨table, resolved, linked⟩ := LinkTable.resolveFrom_of_linkable grantable 0
  refine ⟨{ session with links := table }, ?_, linked⟩
  unfold SessionM.Answers
  rw [outcome_perform, resolved, Nat.zero_add]
  rfl

theorem fails_of_not_grantable (refused : ¬ request.Grantable session) :
    ∃ error, request.perform.Fails session (.scope error) (request.after session) := by
  obtain ⟨error, failed⟩ := LinkTable.resolveFrom_of_not_linkable refused 0
  refine ⟨error, ?_⟩
  unfold SessionM.Fails after
  rw [outcome_perform, failed]
  rfl

theorem grantable_of_answers {count : Nat} {after : Session}
    (answers : request.perform.Answers session count after) : request.Grantable session := by
  by_cases grantable : request.Grantable session
  · exact grantable
  · obtain ⟨error, fails⟩ := fails_of_not_grantable grantable
    cases answers.symm.trans fails

theorem grows_after (request : LinkRequest ι) (session : Session) :
    session.links.Grows (request.after session).links := by
  rw [links_after]
  exact LinkTable.grows_resolveFrom _ _ _ _ _

/-- A request changes no link that a request for less of its record sets. -/
theorem grows_of_prefix {shorter : List (Recorded ι)} (begins : shorter <+: request.recorded)
    (session : Session) :
    (LinkRequest.after ⟨shorter, request.method, request.cls⟩ session).links.Grows
      (request.after session).links := by
  obtain ⟨rest, longer⟩ := begins
  rw [links_after, links_after, ← longer]
  exact LinkTable.grows_append _ _ _ _ _ _

end LinkRequest

/-- The sessions that requests lead through: the sessions after each more thing in each record, the
last one with all requests done. -/
def Session.through (session : Session) : List (LinkRequest ι) → List Session
  | [] => [session]
  | request :: requests =>
      (List.range request.recorded.length).map (fun count => (request.first count).after session) ++
        (request.after session).through requests

theorem Session.grows_through (session : Session) (requests : List (LinkRequest ι)) :
    ∀ later ∈ session.through requests, session.links.Grows later.links := by
  induction requests generalizing session with
  | nil =>
      intro later member
      rw [List.mem_singleton.mp member]
      exact .refl _
  | cons request requests ih =>
      intro later member
      rcases List.mem_append.mp member with within | afterwards
      · obtain ⟨count, _, rfl⟩ := List.mem_map.mp within
        exact (request.first count).grows_after session
      · exact (request.grows_after session).trans (ih (request.after session) later afterwards)

/-- A link that is set at one time is set at all later times, and to the same signature. -/
theorem Session.pairwise_through (session : Session) (requests : List (LinkRequest ι)) :
    (session.through requests).Pairwise fun before after => before.links.Grows after.links := by
  induction requests generalizing session with
  | nil => exact List.pairwise_singleton _ _
  | cons request requests ih =>
      refine List.pairwise_append.mpr ⟨?_, ih (request.after session), ?_⟩
      · refine List.pairwise_map.mpr (List.pairwise_lt_range.imp ?_)
        intro fewer more less
        have begins : request.recorded.take fewer <+: (request.first more).recorded :=
          List.take_prefix_take_left (Nat.le_of_lt less)
        exact LinkRequest.grows_of_prefix begins session
      · intro before within later afterwards
        obtain ⟨count, _, rfl⟩ := List.mem_map.mp within
        have begins := List.take_prefix count request.recorded
        exact (LinkRequest.grows_of_prefix begins session).trans
          ((request.after session).grows_through requests later afterwards)

theorem Session.getLast?_through (session : Session) (requests : List (LinkRequest ι)) :
    (session.through requests).getLast? =
      some (requests.foldl (fun session request => request.after session) session) := by
  induction requests generalizing session with
  | nil => rfl
  | cons request requests ih =>
      rw [through, List.getLast?_append, ih]
      rfl

/-- Values that stay once they are there: there is none at first, and then always the same. -/
theorem eq_replicate_of_kept {α : Type} [Inhabited α] {values : List (Option α)}
    (kept : values.Pairwise fun before after => ∀ value, before = some value → after = some value) :
    ∃ unset set value, values = List.replicate unset none ++ List.replicate set (some value) := by
  induction values with
  | nil => exact ⟨0, 0, default, rfl⟩
  | cons first values ih =>
      obtain ⟨later, rest⟩ := List.pairwise_cons.mp kept
      cases first with
      | none =>
          obtain ⟨unset, set, value, rfl⟩ := ih rest
          exact ⟨unset + 1, set, value, rfl⟩
      | some value =>
          have same : values = List.replicate values.length (some value) :=
            List.eq_replicate_iff.mpr ⟨rfl, fun other member => later other member value rfl⟩
          exact ⟨0, values.length + 1, value, by rw [same, List.length_replicate]; rfl⟩

theorem Session.values_through (session : Session) (requests : List (LinkRequest ι))
    (occurrence : Occurrence) (kind : ScopeKind) :
    ∃ unset set target, (session.through requests).map
        (fun session => (session.links.get occurrence).of kind) =
      List.replicate unset none ++ List.replicate set (some target) := by
  refine eq_replicate_of_kept (List.pairwise_map.mpr ?_)
  exact (session.pairwise_through requests).imp fun grows => grows occurrence kind

/-- Linking a record succeeds exactly if no variable in it has a link of a kind that is given and,
if any is given, no variable occurs twice.  It then answers the number of variables, which have the
given links.  Links that are set stay in any case, and so do variables that are not recorded.  So in
the course of any requests a link is not set at first, and from some time on always the same. -/
theorem links_set_once (session : Session) (request : LinkRequest ι) :
    ((∃ count after, request.perform.Answers session count after) ↔ request.Grantable session) ∧
    (¬ request.Grantable session →
      ∃ error, request.perform.Fails session (.scope error) (request.after session)) ∧
    (∀ count after, request.perform.Answers session count after →
      count = (typeVarsIn request.recorded).length ∧
      ∀ occurrence ∈ typeVarsIn request.recorded, after.links.get occurrence =
        (session.links.get occurrence).put request.method request.cls) ∧
    (∀ occurrence,
      (session.links.get occurrence).Keeps ((request.after session).links.get occurrence) ∧
      (occurrence ∉ typeVarsIn request.recorded →
        (request.after session).links.get occurrence = session.links.get occurrence)) ∧
    ∀ requests : List (LinkRequest ι),
      (session.through requests).getLast? =
        some (requests.foldl (fun session request => request.after session) session) ∧
      ∀ occurrence kind, ∃ unset set target, (session.through requests).map
          (fun session => (session.links.get occurrence).of kind) =
        List.replicate unset none ++ List.replicate set (some target) := by
  refine ⟨⟨?_, ?_⟩, LinkRequest.fails_of_not_grantable, ?_, ?_, ?_⟩
  · rintro ⟨count, after, answers⟩
    exact LinkRequest.grantable_of_answers answers
  · intro grantable
    obtain ⟨after, answers, _⟩ := LinkRequest.answers_of_grantable grantable
    exact ⟨_, after, answers⟩
  · intro count after answers
    obtain ⟨after, answers', linked⟩ :=
      LinkRequest.answers_of_grantable (LinkRequest.grantable_of_answers answers)
    cases answers.symm.trans answers'
    exact ⟨rfl, linked⟩
  · intro occurrence
    refine ⟨request.grows_after session occurrence, fun absent => ?_⟩
    rw [request.links_after]
    exact LinkTable.resolveFrom_get_of_not_recorded
      (fun name member => absent (mem_typeVarsIn.mpr ⟨name, member⟩)) _ _
  · intro requests
    exact ⟨session.getLast?_through requests, session.values_through requests⟩

theorem links_set_once_when_repeated :
    let request : LinkRequest Unit := ⟨[.typeVar ⟨⟨0⟩, 0⟩ "T", .item ()], none, some ⟨0⟩⟩
    let session := Session.start .empty
    (∃ after, request.perform.Answers session 1 after ∧
      after.links.get ⟨⟨0⟩, 0⟩ = ⟨none, some ⟨0⟩⟩ ∧
      ∃ error, request.perform.Fails after (.scope error) (request.after after)) := by
  intro request session
  have unset : session.links.get ⟨⟨0⟩, 0⟩ = .unset := LinkTable.get_empty _
  obtain ⟨grantable, _, granted, _⟩ := links_set_once session request
  have free : request.Grantable session := by
    refine ⟨?_, fun _ => List.pairwise_singleton _ _⟩
    intro occurrence member
    rw [List.mem_singleton.mp member, unset]
    exact ⟨fun _ => rfl, fun _ => rfl⟩
  obtain ⟨count, after, answers⟩ := grantable.mpr free
  obtain ⟨rfl, linked⟩ := granted count after answers
  have set : after.links.get ⟨⟨0⟩, 0⟩ = ⟨none, some ⟨0⟩⟩ := by
    rw [linked _ List.mem_cons_self, unset]
    rfl
  refine ⟨after, answers, set, (links_set_once after request).2.1 fun again => ?_⟩
  have still : (after.links.get ⟨⟨0⟩, 0⟩).Open none (some ⟨0⟩) := again.1 _ List.mem_cons_self
  rw [set] at still
  exact nomatch still.2 nofun

end Requests

/-! ## Refusals -/

theorem SessionM.leftByRefusal_of_link {session after : Session} {occurrence : Occurrence}
    {name : String} {method cls : Option SigId} {failure : Failure}
    (fails : (SessionM.link occurrence name method cls).Fails session failure after) :
    (session.links.get occurrence).LeftByRefusal (after.links.get occurrence) method cls := by
  unfold SessionM.Fails at fails
  rw [SessionM.outcome_link] at fails
  rcases LinkTable.link_cases session.links occurrence name method cls with
    ⟨_, linked⟩ | ⟨kind, refuses, linked⟩
  · rw [linked] at fails
    cases fails
  · rw [linked] at fails
    cases fails
    show (session.links.get occurrence).LeftByRefusal
      ((session.links.set occurrence _).get occurrence) method cls
    rw [LinkTable.get_set, if_pos rfl]
    exact Links.leftByRefusal_of_refuses refuses

/-- A variable that is refused keeps its links, whether it is linked by itself or as one of a
record, where the variables before it are linked.  The one exception: if a method link was to be set
and was not set before, it is set, and the class link is the one that was refused. -/
theorem refused_variable_keeps_links {session after : Session} {method cls : Option SigId}
    {failure : Failure} :
    (∀ occurrence name, (SessionM.link occurrence name method cls).Fails session failure after →
      (session.links.get occurrence).LeftByRefusal (after.links.get occurrence) method cls) ∧
    ∀ {ι : Type} (recorded : List (Recorded ι)),
      (SessionM.resolve recorded method cls).Fails session failure after →
      ∃ front occurrence name back count middle,
        recorded = front ++ .typeVar occurrence name :: back ∧
        (SessionM.resolve front method cls).Answers session count middle ∧
        (SessionM.link occurrence name method cls).Fails middle failure after ∧
        (middle.links.get occurrence).LeftByRefusal (after.links.get occurrence) method cls := by
  refine ⟨fun occurrence name => SessionM.leftByRefusal_of_link, fun {ι} recorded fails => ?_⟩
  unfold SessionM.Fails at fails
  rw [SessionM.outcome_resolve] at fails
  rcases resolved : session.links.resolve recorded method cls with ⟨links, error | count⟩
  · rw [resolved] at fails
    cases fails
    obtain ⟨front, occurrence, name, back, middle, count, rfl, reached, refused⟩ :=
      LinkTable.resolveFrom_stopped resolved
    let reachedSession : Session := { session with links := middle }
    have stopped : (SessionM.link occurrence name method cls).Fails reachedSession (.scope error)
        { session with links := links } := by
      have linked : reachedSession.links.link occurrence name method cls = (links, some error) :=
        refused
      unfold SessionM.Fails
      rw [SessionM.outcome_link, linked]
    refine ⟨front, occurrence, name, back, count, reachedSession, rfl, ?_, stopped,
      SessionM.leftByRefusal_of_link stopped⟩
    unfold SessionM.Answers
    rw [SessionM.outcome_resolve]
    unfold LinkTable.resolve
    rw [reached]
    rfl
  · rw [resolved] at fails
    cases fails

theorem SessionM.link_refused {session : Session} {occurrence : Occurrence}
    {method cls : Option SigId} {links : Links} {kind : ScopeKind}
    (bound : (session.links.get occurrence).bind method cls = (links, some kind)) (name : String) :
    ∃ after, (SessionM.link occurrence name method cls).Fails session (.scope ⟨kind, name⟩) after ∧
      after.links.get occurrence = links := by
  refine ⟨{ session with links := session.links.set occurrence links }, ?_, ?_⟩
  · unfold SessionM.Fails
    rw [SessionM.outcome_link]
    unfold LinkTable.link
    rw [bound]
  · show (session.links.set occurrence links).get occurrence = links
    rw [LinkTable.get_set, if_pos rfl]

/-- The variable of a class that was read is linked to the class. -/
theorem links_of_read_class :
    let read := ((SessionM.parseClass "LA<TX;>;").outcome (Session.start .empty)).2
    read.inForce = .valid .standard ∧ read.issued = 1 ∧
      read.links.get ⟨⟨0⟩, 0⟩ = ⟨none, some ⟨0⟩⟩ := by
  intro read
  let tree : ClassSig := ⟨[], .classRef "A" [.mk .exactly (some (.typeVar "X"))] [] [], []⟩
  have name (name : String) (valid : IsIdentifier name) : DerivesIdentifier name.toList name :=
    .mk valid
  have argument : DerivesArg "TX;".toList (.mk .exactly (some (.typeVar "X"))) :=
    .exactly (.typeVar (.mk (name "X" (by decide))))
  have super : DerivesClassRef "LA<TX;>;".toList tree.super :=
    .mk (name "A" (by decide)) .nil (.listed (.cons argument .nil) (List.cons_ne_nil _ _)) .nil
  have cls : DerivesClass "LA<TX;>;".toList tree := .mk (.mk .absent nofun) super .nil
  obtain ⟨names, parsed⟩ : ∃ names, ClassSig.parse Settings.standard.maxLength "LA<TX;>;" =
    .ok (tree, names) := decides_classOnly.parse_eq_ok.mpr cls
  obtain rfl := names_of_parseClass parsed
  let loaded := ((Session.start .empty).noted (.readingClass "LA<TX;>;")).loaded .standard
  have enrolled : read = loaded.enrolled tree.typeVars (fun _ => none) some := by
    have outcome := SessionM.outcome_parseClass (Session.fresh_start .empty) inForce_start
      "LA<TX;>;"
    rw [parsed] at outcome
    exact congrArg Prod.snd outcome
  have fresh : loaded.Fresh := (Session.fresh_start .empty).congr rfl rfl
  rw [enrolled]
  exact ⟨rfl, rfl, Session.linksOf_enrolled fresh tree.typeVars (fun _ => none) some 0⟩

theorem refused_variable_keeps_links_of_class :
    let read := ((SessionM.parseClass "LA<TX;>;").outcome (Session.start .empty)).2
    read.Reachable ∧ ∃ after,
      (SessionM.link ⟨⟨0⟩, 0⟩ "X" none (some ⟨0⟩)).Fails read (.scope ⟨.cls, "X"⟩) after ∧
      after.links.get ⟨⟨0⟩, 0⟩ = read.links.get ⟨⟨0⟩, 0⟩ := by
  intro read
  refine ⟨.call (.parseClass "LA<TX;>;") (.start .empty) trivial, ?_⟩
  have bound : (read.links.get ⟨⟨0⟩, 0⟩).bind none (some ⟨0⟩) =
      (⟨none, some ⟨0⟩⟩, some .cls) := by
    rw [links_of_read_class.2.2]
    rfl
  obtain ⟨after, fails, _⟩ := SessionM.link_refused bound "X"
  exact ⟨after, fails, (refused_variable_keeps_links.1 ⟨⟨0⟩, 0⟩ "X" fails).1 (.inl rfl)⟩

/-- A class was read, so its variable is linked to it.  To link the variable to a method and to the
class is refused because of the class, and links it to the method. -/
theorem method_link_set_before_refusal :
    let read := ((SessionM.parseClass "LA<TX;>;").outcome (Session.start .empty)).2
    let session := ((SessionM.parseMethod "()V" none).outcome read).2
    session.Reachable ∧ Call.Possible session (.link ⟨⟨0⟩, 0⟩ "X" (some ⟨1⟩) (some ⟨0⟩)) ∧
      session.links.get ⟨⟨0⟩, 0⟩ = ⟨none, some ⟨0⟩⟩ ∧ ∃ after,
        (SessionM.link ⟨⟨0⟩, 0⟩ "X" (some ⟨1⟩) (some ⟨0⟩)).Fails session
          (.scope ⟨.cls, "X"⟩) after ∧
        after.links.get ⟨⟨0⟩, 0⟩ = ⟨some ⟨1⟩, some ⟨0⟩⟩ := by
  intro read session
  have readReachable : read.Reachable :=
    .call (.parseClass "LA<TX;>;") (.start .empty) trivial
  obtain ⟨valid, issued, linked⟩ : read.inForce = .valid .standard ∧ read.issued = 1 ∧
    read.links.get ⟨⟨0⟩, 0⟩ = ⟨none, some ⟨0⟩⟩ := links_of_read_class
  have extended : read.Extends session := by
    let noted := read.noted (.readingMethod "()V")
    have opened : (SessionM.contextSignature none).Answers noted none noted := rfl
    have outcome := SessionM.outcome_parseMethod_of_context readReachable.fresh opened valid
    have begun : read.Quiet noted := Session.quiet_noted read rfl
    have ended : noted.Quiet (noted.methodRead .standard none "()V").2 :=
      Session.quiet_methodRead (begun.inForce_eq.trans valid) none "()V"
    show read.Extends ((SessionM.parseMethod "()V" none).outcome read).2
    rw [outcome]
    exact (begun.trans ended).toExtends
  have known : 0 < read.issued := by
    rw [issued]
    exact Nat.one_pos
  have links : session.links.get ⟨⟨0⟩, 0⟩ = ⟨none, some ⟨0⟩⟩ :=
    (extended.links_eq ⟨⟨0⟩, 0⟩ known).trans linked
  have bound : (session.links.get ⟨⟨0⟩, 0⟩).bind (some ⟨1⟩) (some ⟨0⟩) =
      (⟨some ⟨1⟩, some ⟨0⟩⟩, some .cls) := by
    rw [links]
    rfl
  exact ⟨.call (.parseMethod "()V" none) readReachable trivial,
    Nat.lt_of_lt_of_le known extended.issued_le, links, SessionM.link_refused bound "X"⟩

end GenericSignature
