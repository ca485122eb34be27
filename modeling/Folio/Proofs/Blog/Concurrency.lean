import Folio.Proofs.Blog.Growth

/-!
# Calls that run side by side

A call looks at what is kept, makes what it did not find there, and keeps what it made. Looking and
keeping are each done at once, but in between other calls may look and keep the same, and what was
kept may be removed. That does no harm: what is kept and what calls have in hand is always what the
sources give, so it does not matter who was first, and no call waits for another.
-/

namespace Folio.Blog

/-- What a call asks for. -/
inductive Request where
  | post (slug : String)
  | listing (pattern : String)
  deriving DecidableEq

namespace Request

/-- What a request gives. -/
abbrev Result : Request → Type
  | .post _ => Post
  | .listing _ => List Meta

/-- What is kept for a request. Nothing is kept for a search. -/
def kept (cache : Cache) : (request : Request) → Option request.Result
  | .post slug => cache.posts.get? slug
  | .listing pattern => if pattern = "" then cache.listings.get? pattern else none

/-- What the sources give for a request. -/
def fresh : (request : Request) → Except Fault request.Result
  | .post slug => Archive.post slug
  | .listing pattern => Archive.listing pattern

/-- Keep what was made for a request. Nothing is kept for a search. -/
def keep (cache : Cache) : (request : Request) → request.Result → Cache
  | .post slug, value => cache.putPost slug value
  | .listing pattern, value => if pattern = "" then cache.putListing pattern value else cache

/-- Whether a request is a search, the outcome of which is not kept. -/
def isSearch : Request → Bool
  | .post _ => false
  | .listing pattern => pattern ≠ ""

/-- A lookup for a request that nothing runs beside. -/
def lookup (cache : Cache) : (request : Request) → Except Fault request.Result × Cache
  | .post slug => cache.find slug
  | .listing pattern => cache.list pattern

/-- The answer to a request that is alone and finds nothing kept. -/
def alone (request : Request) : Except Fault request.Result := (request.lookup .empty).1

end Request

/-- How far a call is that gives an `α`. -/
inductive Progress (α : Type) where
  /-- It has not looked yet. -/
  | asked
  /-- It looked, and nothing was kept. -/
  | missed
  /-- It has made what it was asked for. -/
  | made (value : α)
  | answered (result : Except Fault α)

/-- A call. -/
structure Task where
  request : Request
  progress : Progress request.Result

/-- A call takes its next step. -/
def Task.turn (task : Task) (cache : Cache) : Task × Cache :=
  match task.progress with
  | .asked =>
    match task.request.kept cache with
    | some value => (⟨task.request, .answered (.ok value)⟩, cache)
    | none => (⟨task.request, .missed⟩, cache)
  | .missed =>
    match task.request.fresh with
    | .ok value => (⟨task.request, .made value⟩, cache)
    | .error fault => (⟨task.request, .answered (.error fault)⟩, cache)
  | .made value => (⟨task.request, .answered (.ok value)⟩, task.request.keep cache value)
  | .answered _ => (task, cache)

/-- Calls over one cache. -/
structure Traffic where
  cache : Cache
  tasks : List Task

/-- What may happen next: a call takes a step, or something is removed. -/
inductive Event where
  | turn (index : Nat)
  | dropPost (slug : String)
  | dropListing (pattern : String)
  | clear
  deriving DecidableEq

/-- Whether an event removes something. -/
def Event.removes : Event → Bool
  | .turn _ => false
  | _ => true

namespace Traffic

/-- Calls that have not looked yet. -/
def begin (cache : Cache) (requests : List Request) : Traffic :=
  { cache, tasks := requests.map fun request => ⟨request, .asked⟩ }

/-- What an event changes. -/
def step (traffic : Traffic) : Event → Traffic
  | .turn index =>
    match traffic.tasks[index]? with
    | none => traffic
    | some task =>
      { cache := (task.turn traffic.cache).2
        tasks := traffic.tasks.set index (task.turn traffic.cache).1 }
  | .dropPost slug => { traffic with cache := traffic.cache.dropPost slug }
  | .dropListing pattern => { traffic with cache := traffic.cache.dropListing pattern }
  | .clear => { traffic with cache := .empty }

/-- What events change one after the other. -/
def run (traffic : Traffic) (events : List Event) : Traffic := events.foldl step traffic

end Traffic

namespace Request

variable {cache : Cache}

/-- A request is answered by a faithful cache with what the sources give. -/
theorem lookup_of_faithful (h : cache.Faithful) (request : Request) :
    (request.lookup cache).1 = request.fresh := by
  cases request with
  | post slug => exact (h.find slug).1
  | listing pattern => exact (h.list pattern).1

/-- A lookup is answered with what is kept. -/
theorem lookup_of_kept {request : Request} {value : request.Result}
    (hkept : request.kept cache = some value) : request.lookup cache = (.ok value, cache) := by
  cases request with
  | post slug => exact Cache.find_of_kept hkept
  | listing pattern =>
    by_cases hpattern : pattern = ""
    · subst hpattern
      exact Cache.list_of_kept hkept
    · simp [kept, hpattern] at hkept

/-- A lookup that misses keeps what the sources give. -/
theorem lookup_of_fresh {request : Request} {value : request.Result}
    (hkept : request.kept cache = none) (hfresh : request.fresh = .ok value) :
    request.lookup cache = (.ok value, request.keep cache value) := by
  cases request with
  | post slug => exact Cache.find_of_post hkept hfresh
  | listing pattern =>
    by_cases hpattern : pattern = ""
    · subst hpattern
      exact Cache.list_of_posts hkept hfresh
    · have hlisting : Archive.listing pattern = .ok value := hfresh
      rw [keep, if_neg hpattern, lookup, Cache.list_of_search hpattern, hlisting]

/-- A lookup that misses keeps no fault. -/
theorem lookup_of_fault {request : Request} {fault : Fault} (hkept : request.kept cache = none)
    (hfresh : request.fresh = .error fault) :
    request.lookup cache = (.error fault, cache) := by
  cases request with
  | post slug => exact Cache.find_of_fault hkept hfresh
  | listing pattern =>
    by_cases hpattern : pattern = ""
    · subst hpattern
      exact Cache.list_of_fault hkept hfresh
    · have hlisting : Archive.listing pattern = .error fault := hfresh
      rw [lookup, Cache.list_of_search hpattern, hlisting]

/-- Alone, a request is answered with what the sources give. -/
theorem alone_eq_fresh (request : Request) : request.alone = request.fresh :=
  request.lookup_of_faithful .empty

/-- What a faithful cache keeps is what the sources give. -/
theorem fresh_of_kept (h : cache.Faithful) {request : Request} {value : request.Result}
    (hkept : request.kept cache = some value) : request.fresh = .ok value := by
  obtain ⟨hposts, hlistings⟩ := Cache.faithful_iff.mp h
  cases request with
  | post slug => exact hposts slug value hkept
  | listing pattern =>
    by_cases hpattern : pattern = ""
    · subst hpattern
      exact (hlistings "" value hkept).2
    · simp [kept, hpattern] at hkept

/-- Keeping what the sources give leaves a cache faithful. -/
theorem keep_faithful (h : cache.Faithful) {request : Request} {value : request.Result}
    (hfresh : request.fresh = .ok value) : (request.keep cache value).Faithful := by
  cases request with
  | post slug => exact h.putPost hfresh
  | listing pattern =>
    by_cases hpattern : pattern = ""
    · subst hpattern
      exact h.putListing hfresh
    · rwa [keep, if_neg hpattern]

/-- Keeping what the sources give loses nothing of a faithful cache, even if it is kept already. -/
theorem keep_preserves (h : cache.Faithful) {request : Request} {value : request.Result}
    (hfresh : request.fresh = .ok value) : cache.Preserves (request.keep cache value) := by
  obtain ⟨hposts, hlistings⟩ := Cache.faithful_iff.mp h
  cases request with
  | post slug =>
    refine ⟨?_, fun _ _ hkept => hkept⟩
    intro key post hkept
    have hpost : Archive.post slug = .ok value := hfresh
    rw [keep, Cache.putPost, Store.Table.get?_put]
    split
    · next hkey =>
      rw [← hkey, hposts key post hkept, Except.ok.injEq] at hpost
      rw [hpost]
    · exact hkept
  | listing pattern =>
    by_cases hpattern : pattern = ""
    · subst hpattern
      refine ⟨fun _ _ hkept => hkept, ?_⟩
      intro key posts hkept
      obtain ⟨rfl, hposts⟩ := hlistings key posts hkept
      have hlisting : Archive.listing "" = .ok value := hfresh
      rw [hposts, Except.ok.injEq] at hlisting
      rw [keep, if_pos rfl, Cache.putListing, Store.Table.get?_put_self, hlisting]
    · rw [keep, if_neg hpattern]
      exact .refl cache

/-- What is kept for a request stays as long as nothing is lost. -/
theorem kept_of_preserves {before after : Cache} (h : before.Preserves after) {request : Request}
    {value : request.Result} (hkept : request.kept before = some value) :
    request.kept after = some value := by
  cases request with
  | post slug => exact h.posts slug value hkept
  | listing pattern =>
    by_cases hpattern : pattern = ""
    · subst hpattern
      exact h.listings "" value hkept
    · simp [kept, hpattern] at hkept

/-- What was made is kept, unless it is the outcome of a search. -/
theorem kept_keep (cache : Cache) {request : Request} (hsearch : request.isSearch = false)
    (value : request.Result) : request.kept (request.keep cache value) = some value := by
  cases request with
  | post slug => simp [kept, keep, Cache.putPost]
  | listing pattern =>
    have hpattern : pattern = "" := by simpa [isSearch] using hsearch
    simp [kept, keep, hpattern, Cache.putListing]

/-- Keeping what was made for a request adds nothing under another slug. -/
theorem post_of_keep {request : Request} {value : request.Result} {slug : String} {post : Post}
    (h : (request.keep cache value).posts.get? slug = some post) :
    cache.posts.get? slug = some post ∨ request = .post slug := by
  cases request with
  | post key =>
    rw [keep, Cache.putPost, Store.Table.get?_put] at h
    split at h
    · next hkey => exact Or.inr (by rw [hkey])
    · exact Or.inl h
  | listing pattern =>
    by_cases hpattern : pattern = ""
    · rw [keep, if_pos hpattern] at h
      exact Or.inl h
    · rw [keep, if_neg hpattern] at h
      exact Or.inl h

/-- Keeping what was made for a request adds no listing but the one of all posts. -/
theorem listing_of_keep {request : Request} {value : request.Result} {pattern : String}
    {posts : List Meta} (h : (request.keep cache value).listings.get? pattern = some posts) :
    cache.listings.get? pattern = some posts ∨ pattern = "" ∧ request = .listing "" := by
  cases request with
  | post slug => exact Or.inl h
  | listing key =>
    by_cases hkey : key = ""
    · subst hkey
      rw [keep, if_pos rfl, Cache.putListing, Store.Table.get?_put] at h
      split at h
      · next hpattern => exact Or.inr ⟨hpattern, rfl⟩
      · exact Or.inl h
    · rw [keep, if_neg hkey] at h
      exact Or.inl h

end Request

/-- What a step of a call does: it finds something kept or misses it, makes it or fails, and keeps
what it has made; a call that was answered does nothing more. -/
inductive Turns (cache : Cache) : Task → Task × Cache → Prop where
  | found {request : Request} {value : request.Result} (h : request.kept cache = some value) :
      Turns cache ⟨request, .asked⟩ (⟨request, .answered (.ok value)⟩, cache)
  | missed {request : Request} (h : request.kept cache = none) :
      Turns cache ⟨request, .asked⟩ (⟨request, .missed⟩, cache)
  | made {request : Request} {value : request.Result} (h : request.fresh = .ok value) :
      Turns cache ⟨request, .missed⟩ (⟨request, .made value⟩, cache)
  | failed {request : Request} {fault : Fault} (h : request.fresh = .error fault) :
      Turns cache ⟨request, .missed⟩ (⟨request, .answered (.error fault)⟩, cache)
  | kept (request : Request) (value : request.Result) :
      Turns cache ⟨request, .made value⟩
        (⟨request, .answered (.ok value)⟩, request.keep cache value)
  | idle (request : Request) (result : Except Fault request.Result) :
      Turns cache ⟨request, .answered result⟩ (⟨request, .answered result⟩, cache)

namespace Task

variable {request : Request} {cache : Cache}

/-- A call that finds something kept is answered with it. -/
theorem turn_of_kept {value : request.Result} (h : request.kept cache = some value) :
    turn ⟨request, .asked⟩ cache = (⟨request, .answered (.ok value)⟩, cache) := by
  simp only [turn, h]

/-- A call that finds nothing kept misses. -/
theorem turn_of_not_kept (h : request.kept cache = none) :
    turn ⟨request, .asked⟩ cache = (⟨request, .missed⟩, cache) := by
  simp only [turn, h]

/-- A call that missed makes what the sources give. -/
theorem turn_of_fresh {value : request.Result} (h : request.fresh = .ok value) :
    turn ⟨request, .missed⟩ cache = (⟨request, .made value⟩, cache) := by
  simp only [turn, h]

/-- A call that missed is answered with the fault of the sources. -/
theorem turn_of_fault {fault : Fault} (h : request.fresh = .error fault) :
    turn ⟨request, .missed⟩ cache = (⟨request, .answered (.error fault)⟩, cache) := by
  simp only [turn, h]

/-- A call takes one of these steps. -/
theorem turns (task : Task) (cache : Cache) : Turns cache task (task.turn cache) := by
  obtain ⟨request, progress⟩ := task
  cases progress with
  | asked =>
    cases h : request.kept cache with
    | some value => exact turn_of_kept h ▸ .found h
    | none => exact turn_of_not_kept h ▸ .missed h
  | missed =>
    cases h : request.fresh with
    | ok value => exact turn_of_fresh h ▸ .made h
    | error fault => exact turn_of_fault h ▸ .failed h
  | made value => exact .kept request value
  | answered result => exact .idle request result

end Task

/-- What a call has in hand is what the sources give. -/
def Progress.Sound {α : Type} (fresh : Except Fault α) : Progress α → Prop
  | .made value => fresh = .ok value
  | .answered result => result = fresh
  | _ => True

/-- The steps of a call that are done; one that found something kept needs no more. -/
def Progress.steps {α : Type} : Progress α → Nat
  | .asked => 0
  | .missed => 1
  | .made _ => 2
  | .answered _ => 3

/-- A call with three steps behind it is answered. -/
theorem Progress.answered_of_steps {α : Type} {progress : Progress α}
    (h : 3 ≤ progress.steps) : ∃ result, progress = .answered result := by
  cases progress with
  | answered result => exact ⟨result, rfl⟩
  | asked | missed | made => simp [Progress.steps] at h

/-- What a call has in hand is what the sources give for its request. -/
def Task.Sound (task : Task) : Prop := task.progress.Sound task.request.fresh

/-- What a call was answered is kept, unless it is the outcome of a search. -/
def Task.Held (cache : Cache) (task : Task) : Prop :=
  ∀ value, task.progress = .answered (.ok value) → task.request.isSearch = false →
    task.request.kept cache = some value

namespace Turns

variable {cache : Cache} {task : Task} {outcome : Task × Cache}

/-- A step does not change what a call asks for. -/
theorem request_eq (h : Turns cache task outcome) : outcome.1.request = task.request := by
  cases h <;> rfl

/-- A step in front of a faithful cache keeps it faithful and loses nothing of it, and what the call
then has in hand is what the sources give. -/
theorem sound (h : Turns cache task outcome) (hcache : cache.Faithful) (htask : task.Sound) :
    outcome.2.Faithful ∧ cache.Preserves outcome.2 ∧ outcome.1.Sound := by
  cases h with
  | found hkept => exact ⟨hcache, .refl cache, (Request.fresh_of_kept hcache hkept).symm⟩
  | missed => exact ⟨hcache, .refl cache, trivial⟩
  | made hfresh => exact ⟨hcache, .refl cache, hfresh⟩
  | failed hfresh => exact ⟨hcache, .refl cache, hfresh.symm⟩
  | kept request value =>
    exact ⟨Request.keep_faithful hcache htask, Request.keep_preserves hcache htask,
      Eq.symm htask⟩
  | idle request result => exact ⟨hcache, .refl cache, htask⟩

/-- What a call was answered is kept behind its step. -/
theorem held (h : Turns cache task outcome) (htask : task.Held cache) :
    outcome.1.Held outcome.2 := by
  cases h with
  | found hkept =>
    intro value hvalue _
    cases hvalue
    exact hkept
  | missed | made | failed =>
    intro value hvalue
    cases hvalue
  | kept request value =>
    intro other hother hsearch
    cases hother
    exact Request.kept_keep cache hsearch value
  | idle => exact htask

/-- A step brings a call nearer to its answer, which is at most three steps away. -/
theorem steps_le (h : Turns cache task outcome) :
    min 3 (task.progress.steps + 1) ≤ outcome.1.progress.steps := by
  cases h <;> simp [Progress.steps]

/-- A step adds at most the post that the call asks for. -/
theorem post_eq (h : Turns cache task outcome) {slug : String} {post : Post}
    (hpost : outcome.2.posts.get? slug = some post) :
    cache.posts.get? slug = some post ∨ task.request = .post slug := by
  cases h with
  | kept request value => exact Request.post_of_keep hpost
  | found | missed | made | failed | idle => exact Or.inl hpost

/-- A step adds at most the listing of all posts, if the call asks for it. -/
theorem listing_eq (h : Turns cache task outcome) {pattern : String} {posts : List Meta}
    (hposts : outcome.2.listings.get? pattern = some posts) :
    cache.listings.get? pattern = some posts ∨ pattern = "" ∧ task.request = .listing "" := by
  cases h with
  | kept request value => exact Request.listing_of_keep hposts
  | found | missed | made | failed | idle => exact Or.inl hposts

end Turns

namespace Traffic

/-- The cache is faithful, and what calls have in hand is what the sources give. -/
structure Sound (traffic : Traffic) : Prop where
  cache : traffic.cache.Faithful
  tasks : ∀ task ∈ traffic.tasks, task.Sound

/-- Since a start nothing was lost, all that is new was asked for, and what calls were answered is
kept. -/
structure Retains (start : Cache) (requests : List Request) (traffic : Traffic) : Prop where
  preserves : start.Preserves traffic.cache
  asked : ∀ task ∈ traffic.tasks, task.request ∈ requests
  held : ∀ task ∈ traffic.tasks, task.Held traffic.cache
  posts : ∀ slug post, traffic.cache.posts.get? slug = some post →
    start.posts.get? slug = some post ∨ .post slug ∈ requests
  listings : ∀ pattern posts, traffic.cache.listings.get? pattern = some posts →
    start.listings.get? pattern = some posts ∨ pattern = "" ∧ .listing "" ∈ requests

variable {traffic : Traffic} {start : Cache} {requests : List Request} {event : Event}
  {events : List Event}

/-- A turn of a call that there is. -/
theorem step_turn {index : Nat} {task : Task} (h : traffic.tasks[index]? = some task) :
    traffic.step (.turn index) =
      ⟨(task.turn traffic.cache).2, traffic.tasks.set index (task.turn traffic.cache).1⟩ := by
  simp only [step, h]

/-- A turn of a call that there is not. -/
theorem step_turn_of_none {index : Nat} (h : traffic.tasks[index]? = none) :
    traffic.step (.turn index) = traffic := by
  simp only [step, h]

/-- A turn of the only call. -/
theorem step_single (cache : Cache) (task : Task) :
    step ⟨cache, [task]⟩ (.turn 0) = ⟨(task.turn cache).2, [(task.turn cache).1]⟩ := rfl

/-- Three turns of a call that nothing runs beside are a lookup. -/
theorem run_alone (request : Request) (cache : Cache) :
    (begin cache [request]).run [.turn 0, .turn 0, .turn 0] =
      ⟨(request.lookup cache).2, [⟨request, .answered (request.lookup cache).1⟩]⟩ := by
  change step (step (step ⟨cache, [⟨request, .asked⟩]⟩ (.turn 0)) (.turn 0)) (.turn 0) = _
  cases hkept : request.kept cache with
  | some value =>
    rw [step_single, Task.turn_of_kept hkept, Request.lookup_of_kept hkept]
    rfl
  | none =>
    rw [step_single, Task.turn_of_not_kept hkept, step_single]
    cases hfresh : request.fresh with
    | ok value =>
      rw [Task.turn_of_fresh hfresh, Request.lookup_of_fresh hkept hfresh]
      rfl
    | error fault =>
      rw [Task.turn_of_fault hfresh, Request.lookup_of_fault hkept hfresh]
      rfl

/-- What happens keeps the cache faithful and what calls have in hand what the sources give. -/
theorem Sound.step (h : traffic.Sound) (event : Event) : (traffic.step event).Sound := by
  cases event with
  | turn index =>
    cases htask : traffic.tasks[index]? with
    | none => rwa [step_turn_of_none htask]
    | some task =>
      have hsound := h.tasks task (List.mem_of_getElem? htask)
      obtain ⟨hcache, -, hturned⟩ := (task.turns traffic.cache).sound h.cache hsound
      rw [step_turn htask]
      refine ⟨hcache, ?_⟩
      intro other hother
      rcases List.mem_or_eq_of_mem_set hother with hmem | rfl
      · exact h.tasks other hmem
      · exact hturned
  | dropPost slug => exact ⟨h.cache.dropPost slug, h.tasks⟩
  | dropListing pattern => exact ⟨h.cache.dropListing pattern, h.tasks⟩
  | clear => exact ⟨.empty, h.tasks⟩

/-- Whatever happens, the cache stays faithful and what calls have in hand what the sources give. -/
theorem Sound.run (h : traffic.Sound) (events : List Event) : (traffic.run events).Sound := by
  induction events generalizing traffic with
  | nil => exact h
  | cons event events ih => exact ih (h.step event)

/-- Calls that have not looked yet have nothing wrong in hand. -/
theorem Sound.begin (h : start.Faithful) (requests : List Request) :
    (begin start requests).Sound := by
  refine ⟨h, ?_⟩
  intro task htask
  obtain ⟨request, -, rfl⟩ := List.mem_map.mp htask
  trivial

/-- A turn keeps what was kept and what was answered. -/
theorem Retains.step (hsound : traffic.Sound) (h : traffic.Retains start requests)
    (hevent : event.removes = false) : (traffic.step event).Retains start requests := by
  cases event with
  | dropPost | dropListing | clear => cases hevent
  | turn index =>
    cases htask : traffic.tasks[index]? with
    | none => rwa [step_turn_of_none htask]
    | some task =>
      have hmem := List.mem_of_getElem? htask
      have hturns := task.turns traffic.cache
      obtain ⟨-, hpreserves, -⟩ := hturns.sound hsound.cache (hsound.tasks task hmem)
      rw [step_turn htask]
      refine ⟨h.preserves.trans hpreserves, ?_, ?_, ?_, ?_⟩
      · intro other hother
        rcases List.mem_or_eq_of_mem_set hother with hother | rfl
        · exact h.asked other hother
        · rw [hturns.request_eq]
          exact h.asked task hmem
      · intro other hother
        rcases List.mem_or_eq_of_mem_set hother with hother | rfl
        · intro value hvalue hsearch
          exact Request.kept_of_preserves hpreserves (h.held other hother value hvalue hsearch)
        · exact hturns.held (h.held task hmem)
      · intro slug post hpost
        rcases hturns.post_eq hpost with hpost | hrequest
        · exact h.posts slug post hpost
        · exact Or.inr (hrequest ▸ h.asked task hmem)
      · intro pattern posts hposts
        rcases hturns.listing_eq hposts with hposts | ⟨hpattern, hrequest⟩
        · exact h.listings pattern posts hposts
        · exact Or.inr ⟨hpattern, hrequest ▸ h.asked task hmem⟩

/-- As long as nothing is removed, what was kept and what was answered is kept. -/
theorem Retains.run (hsound : traffic.Sound) (h : traffic.Retains start requests)
    (hevents : ∀ event ∈ events, event.removes = false) :
    (traffic.run events).Retains start requests := by
  induction events generalizing traffic with
  | nil => exact h
  | cons event events ih =>
    rw [List.forall_mem_cons] at hevents
    exact ih (hsound.step event) (h.step hsound hevents.1) hevents.2

/-- When calls begin, nothing is new. -/
theorem Retains.begin (start : Cache) (requests : List Request) :
    (begin start requests).Retains start requests := by
  refine ⟨.refl start, ?_, ?_, fun _ _ h => Or.inl h, fun _ _ h => Or.inl h⟩
  · intro task htask
    obtain ⟨request, hrequest, rfl⟩ := List.mem_map.mp htask
    exact hrequest
  · intro task htask value hvalue
    obtain ⟨request, -, rfl⟩ := List.mem_map.mp htask
    cases hvalue

/-- A step of the calls keeps what each asks for, and brings the one whose turn it is nearer to its
answer. -/
theorem exists_task_step {index : Nat} {task : Task} (h : traffic.tasks[index]? = some task)
    (event : Event) :
    ∃ next, (traffic.step event).tasks[index]? = some next ∧ next.request = task.request ∧
      min 3 (task.progress.steps + [event].count (.turn index)) ≤ next.progress.steps := by
  cases event with
  | dropPost | dropListing | clear => exact ⟨task, h, rfl, Nat.min_le_right 3 _⟩
  | turn other =>
    by_cases hother : other = index
    · subst hother
      have hturns := task.turns traffic.cache
      obtain ⟨hlt, -⟩ := List.getElem?_eq_some_iff.mp h
      refine ⟨(task.turn traffic.cache).1, ?_, hturns.request_eq, ?_⟩
      · rw [step_turn h, List.getElem?_set_self hlt]
      · simpa using hturns.steps_le
    · have hcount : [Event.turn other].count (.turn index) = 0 := by simp [hother]
      refine ⟨task, ?_, rfl, by rw [hcount]; exact Nat.min_le_right 3 _⟩
      cases htask : traffic.tasks[other]? with
      | none => rwa [step_turn_of_none htask]
      | some turned => rwa [step_turn htask, List.getElem?_set_ne hother]

/-- Every turn of a call brings it nearer to its answer, whatever happens in between. -/
theorem exists_task_run {index : Nat} {task : Task} (h : traffic.tasks[index]? = some task)
    (events : List Event) :
    ∃ later, (traffic.run events).tasks[index]? = some later ∧ later.request = task.request ∧
      min 3 (task.progress.steps + events.count (.turn index)) ≤ later.progress.steps := by
  induction events generalizing traffic task with
  | nil => exact ⟨task, h, rfl, by rw [List.count_nil]; omega⟩
  | cons event events ih =>
    obtain ⟨next, hnext, hrequest, hsteps⟩ := exists_task_step h event
    obtain ⟨later, hlater, hrequest', hsteps'⟩ := ih hnext
    refine ⟨later, hlater, hrequest'.trans hrequest, ?_⟩
    rw [← List.singleton_append, List.count_append]
    omega

/-- The call that was begun for a request, whatever happened since. -/
theorem exists_task {index : Nat} {request : Request} (h : requests[index]? = some request)
    (start : Cache) (events : List Event) :
    ∃ progress : Progress request.Result,
      ((begin start requests).run events).tasks[index]? = some ⟨request, progress⟩ ∧
        min 3 (events.count (.turn index)) ≤ progress.steps := by
  have hbegin : (begin start requests).tasks[index]? = some ⟨request, .asked⟩ := by
    simp [begin, h]
  obtain ⟨⟨_, progress⟩, htask, rfl, hsteps⟩ := exists_task_run hbegin events
  rw [show (Progress.asked : Progress _).steps = 0 from rfl, Nat.zero_add] at hsteps
  exact ⟨progress, htask, hsteps⟩

/-- What was asked for and made is kept when all calls are answered and nothing was removed. -/
theorem kept_of_answered (hstart : start.Faithful)
    (hevents : ∀ event ∈ events, event.removes = false)
    (hanswered : ∀ task ∈ ((begin start requests).run events).tasks,
      ∃ result, task.progress = .answered result)
    {request : Request} (hrequest : request ∈ requests) (hsearch : request.isSearch = false)
    {value : request.Result} (halone : request.alone = .ok value) :
    request.kept ((begin start requests).run events).cache = some value := by
  have hbegin := Sound.begin hstart requests
  obtain ⟨index, hindex⟩ := List.getElem?_of_mem hrequest
  obtain ⟨progress, htask, -⟩ := exists_task hindex start events
  have hmem := List.mem_of_getElem? htask
  obtain ⟨result, hresult⟩ := hanswered _ hmem
  have hsound : progress.Sound request.fresh := (hbegin.run events).tasks _ hmem
  rw [show progress = .answered result from hresult] at hsound
  have hvalue : result = .ok value := hsound.trans (request.alone_eq_fresh.symm.trans halone)
  exact ((Retains.begin start requests).run hbegin hevents).held _ hmem value
    (hvalue ▸ hresult) hsearch

end Traffic

/-- What becomes of calls over a cache, whatever happens in whatever order: each is answered as if
it were alone, after three turns at the latest; the cache keeps nothing but what the sources give;
and if nothing is removed, it keeps in the end what it kept at the start and what was asked for and
is given, and nothing else. -/
structure Harmless (start : Cache) (requests : List Request) (events : List Event) : Prop where
  answers : ∀ index request, requests[index]? = some request →
    ∃ progress : Progress request.Result,
      ((Traffic.begin start requests).run events).tasks[index]? = some ⟨request, progress⟩ ∧
        (∀ result, progress = .answered result → result = request.alone) ∧
        (3 ≤ events.count (.turn index) → progress = .answered request.alone)
  faithful : ((Traffic.begin start requests).run events).cache.Faithful
  posts : (∀ event ∈ events, event.removes = false) →
    (∀ task ∈ ((Traffic.begin start requests).run events).tasks,
      ∃ result, task.progress = .answered result) →
    ∀ slug post,
      ((Traffic.begin start requests).run events).cache.posts.get? slug = some post ↔
        start.posts.get? slug = some post ∨
          .post slug ∈ requests ∧ (Request.post slug).alone = .ok post
  listings : (∀ event ∈ events, event.removes = false) →
    (∀ task ∈ ((Traffic.begin start requests).run events).tasks,
      ∃ result, task.progress = .answered result) →
    ∀ pattern posts,
      ((Traffic.begin start requests).run events).cache.listings.get? pattern = some posts ↔
        start.listings.get? pattern = some posts ∨
          pattern = "" ∧ .listing "" ∈ requests ∧ (Request.listing "").alone = .ok posts

/-- Calls over a faithful cache do no harm. -/
theorem harmless_of_faithful {start : Cache} (hstart : start.Faithful) (requests : List Request)
    (events : List Event) : Harmless start requests events := by
  have hbegin := Traffic.Sound.begin hstart requests
  have hsound := hbegin.run events
  obtain ⟨hposts, hlistings⟩ := Cache.faithful_iff.mp hsound.cache
  refine ⟨?_, hsound.cache, ?_, ?_⟩
  · intro index request hrequest
    obtain ⟨progress, htask, hsteps⟩ := Traffic.exists_task hrequest start events
    have htaskSound : progress.Sound request.fresh :=
      hsound.tasks _ (List.mem_of_getElem? htask)
    have hresult : ∀ result, progress = .answered result → result = request.alone := by
      rintro result rfl
      exact Eq.trans htaskSound request.alone_eq_fresh.symm
    refine ⟨progress, htask, hresult, ?_⟩
    intro hturns
    obtain ⟨result, hanswered⟩ := Progress.answered_of_steps (by omega : 3 ≤ progress.steps)
    rw [hanswered, hresult result hanswered]
  · intro hevents hanswered slug post
    have hretains := (Traffic.Retains.begin start requests).run hbegin hevents
    constructor
    · intro hkept
      refine (hretains.posts slug post hkept).imp_right fun hrequest => ⟨hrequest, ?_⟩
      rw [Request.alone_eq_fresh]
      exact hposts slug post hkept
    · rintro (hkept | ⟨hrequest, halone⟩)
      · exact hretains.preserves.posts slug post hkept
      · exact Traffic.kept_of_answered hstart hevents hanswered hrequest rfl halone
  · intro hevents hanswered pattern posts
    have hretains := (Traffic.Retains.begin start requests).run hbegin hevents
    constructor
    · intro hkept
      refine (hretains.listings pattern posts hkept).imp_right fun ⟨hpattern, hrequest⟩ =>
        ⟨hpattern, hrequest, ?_⟩
      rw [Request.alone_eq_fresh]
      exact (hlistings pattern posts hkept).2
    · rintro (hkept | ⟨rfl, hrequest, halone⟩)
      · exact hretains.preserves.listings pattern posts hkept
      · exact Traffic.kept_of_answered hstart hevents hanswered hrequest rfl halone

end Folio.Blog
