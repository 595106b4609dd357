/-
The identities of the prompts of a batch.

A caller may name some of the prompts. The upload endpoint names bare strings after their
position, and the engine every other prompt without a name, in the same way. A name
that looks like a generated one can meet it.
-/

import BatchInference.Endpoints
import BatchInference.EngineCompletion

set_option autoImplicit false

namespace BatchInference
namespace PromptIds

open Engine EngineItems EngineCompletion Endpoints

/-! ### Names by position -/

/-- The identity of a prompt without a name. -/
def generated (position : Nat) : String := s!"prompt-{position + 1}"

theorem generated_injective {i j : Nat} (same : generated i = generated j) : i = j := by
  have characters := congrArg String.toList same
  simp only [generated, toString, String.toList_append] at characters
  have digits := List.append_cancel_left characters
  have numbers := congrArg (fun text => Nat.ofDigitChars 10 text 0) digits
  simp only [Nat.toList_repr] at numbers
  rw [Nat.ofDigitChars_toDigits (by decide) (by decide),
    Nat.ofDigitChars_toDigits (by decide) (by decide)] at numbers
  exact Nat.succ.inj numbers

theorem generated_ne_empty (position : Nat) : generated position ≠ "" := by
  simp [generated, String.append_eq_empty_iff]

/-- The identities by position, given the names that the caller supplied. -/
def assigned (supplied : List (Option String)) : List String :=
  supplied.mapIdx (fun i name => name.getD (generated i))

/-- The supplied names are pairwise distinct. -/
def NamesApart (supplied : List (Option String)) : Prop :=
  ∀ (i j : Nat) (name : String), supplied[i]? = some (some name) → supplied[j]? = some (some name) → i = j

/-- A supplied name is the generated identity of a prompt without one. -/
def Clash (supplied : List (Option String)) : Prop :=
  ∃ i j : Nat, supplied[i]? = some (some (generated j)) ∧ supplied[j]? = some none

theorem assigned_getElem? (supplied : List (Option String)) (i : Nat) :
    (assigned supplied)[i]? = supplied[i]?.map (fun name => name.getD (generated i)) :=
  List.getElem?_mapIdx

/-- In a list without duplicates every element has one position. -/
theorem nodup_iff_one_position {Value : Type} (values : List Value) :
    values.Nodup ↔ ∀ (i j : Nat) (value : Value), values[i]? = some value →
      values[j]? = some value → i = j := by
  rw [List.nodup_iff_getElem?_ne_getElem?]
  constructor
  · intro apart i j value first second
    have inside := (List.getElem?_eq_some_iff.mp first).1
    have inside' := (List.getElem?_eq_some_iff.mp second).1
    rcases lt_trichotomy i j with before | same | after
    · exact absurd (first.trans second.symm) (apart i j before inside')
    · exact same
    · exact absurd (second.trans first.symm) (apart j i after inside)
  · intro once i j before inside same
    have second : values[j]? = some values[j] := List.getElem?_eq_getElem inside
    exact absurd (once i j _ (same.trans second) second) (ne_of_lt before)

/-- The identities are distinct exactly if no name meets a generated identity. -/
theorem assigned_nodup_iff {supplied : List (Option String)} (apart : NamesApart supplied) :
    (assigned supplied).Nodup ↔ ¬Clash supplied := by
  rw [nodup_iff_one_position]
  constructor
  · rintro once ⟨i, j, named, unnamed⟩
    have same := once i j (generated j) (by rw [assigned_getElem?, named]; rfl)
      (by rw [assigned_getElem?, unnamed]; rfl)
    rw [same, unnamed] at named
    cases named
  · intro clear i j id first second
    rw [assigned_getElem?, Option.map_eq_some_iff] at first second
    obtain ⟨name, read, given⟩ := first
    obtain ⟨name', read', given'⟩ := second
    cases name with
    | none =>
        cases name' with
        | none => exact generated_injective (given.trans given'.symm)
        | some text =>
            have meets : text = generated i := given'.trans given.symm
            rw [meets] at read'
            exact absurd ⟨j, i, read', read⟩ clear
    | some text =>
        cases name' with
        | none =>
            have meets : text = generated j := given.trans given'.symm
            rw [meets] at read
            exact absurd ⟨i, j, read, read'⟩ clear
        | some text' =>
            have same : text = text' := given.trans given'.symm
            rw [← same] at read'
            exact apart i j text read read'

/-! ### The names of a batch -/

/-- The name of an entry of an upload: an empty one counts as none. -/
def suppliedName : Json → Option String
  | .object fields =>
      match fields.lookup "id" with
      | some (.string text) => truthy (some text)
      | _ => none
  | _ => none

/-- The prompts that an endpoint submits, with the names that its caller supplied. -/
inductive Submits : List PromptItem → List (Option String) → Prop
  | json (body : Json) (payload : BatchRequest) (accepted : batchRequest body = some payload) :
      Submits payload.prompts (payload.prompts.map (fun prompt => truthy prompt.id))
  | upload (loads : List UInt8 → Except LoadsError Json) (raw : List UInt8) (data : Json)
      (entries : List Json) (prompts : List PromptItem) (loaded : loads raw = .ok data)
      (listed : entriesOf data = .array entries) (read : readUpload loads raw = .ok prompts) :
      Submits prompts (entries.map suppliedName)

theorem truthy_generated (position : Nat) :
    truthy (some (generated position)) = some (generated position) := by
  simp only [truthy, if_neg (generated_ne_empty position)]

theorem suppliedName_object {fields : List (String × Json)} {id : Option String}
    (read : readId ((fields.lookup "id").getD .null) = some id) :
    suppliedName (.object fields) = truthy id := by
  cases found : fields.lookup "id" with
  | none =>
      rw [found] at read
      cases read
      simp only [suppliedName, found]
      rfl
  | some value =>
      rw [found] at read
      simp only [suppliedName, found]
      cases value with
      | null =>
          cases read
          rfl
      | string text =>
          cases read
          rfl
      | _ => cases read

/-- A prompt of an upload gets the name of its entry, or one for its position. -/
theorem promptId_of_entry {i : Nat} {entry : Json} {prompt : PromptItem}
    (read : uploadEntry i entry = .ok prompt) :
    promptId i prompt = (suppliedName entry).getD (generated i) := by
  cases entry with
  | string text =>
      have made : promptItem (.string (generated i)) (.string text) = .ok prompt := read
      rcases promptItem_cases (.string (generated i)) (.string text) with
        ⟨_, fields, raised⟩ | ⟨id, prompt', validId, _, same⟩
      · rw [raised] at made
        cases made
      · rw [same] at made
        cases made
        cases validId
        unfold promptId
        simp only [truthy_generated]
        rfl
  | object fields =>
      cases found : fields.lookup "prompt" with
      | none =>
          simp only [uploadEntry, found] at read
          cases read
      | some value =>
          simp only [uploadEntry, found] at read
          rcases promptItem_cases ((fields.lookup "id").getD .null) value with
            ⟨_, names, raised⟩ | ⟨id, prompt', validId, _, same⟩
          · rw [raised] at read
            cases read
          · rw [same] at read
            cases read
            rw [suppliedName_object validId]
            rfl
  | _ => cases read

/-- The identities of an upload, read off its entries from position `i` on. -/
theorem promptIds_of_entries (entries : List Json) :
    ∀ i prompts, uploadEntries i entries = .ok prompts →
      prompts.mapIdx (fun k prompt => promptId (k + i) prompt) =
        entries.mapIdx (fun k entry => (suppliedName entry).getD (generated (k + i))) := by
  induction entries with
  | nil =>
      intro i prompts read
      cases read
      rfl
  | cons entry rest ih =>
      intro i prompts read
      rw [uploadEntries] at read
      cases first : uploadEntry i entry with
      | error raised =>
          simp only [first] at read
          cases read
      | ok prompt =>
          cases later : uploadEntries (i + 1) rest with
          | error raised =>
              simp only [first, later] at read
              cases read
          | ok tail =>
              simp only [first, later] at read
              cases read
              rw [List.mapIdx_cons, List.mapIdx_cons, Nat.zero_add, promptId_of_entry first]
              have shifted := ih (i + 1) tail later
              simp only [Nat.add_assoc, Nat.add_comm 1 i]
              rw [shifted]

theorem ids_of_submits {prompts : List PromptItem} {supplied : List (Option String)}
    (batch : Submits prompts supplied) :
    (workItems prompts).map WorkItem.id = assigned supplied := by
  have ids : (workItems prompts).map WorkItem.id = prompts.mapIdx promptId := by
    apply List.ext_getElem?
    intro i
    simp only [workItems, List.getElem?_map, List.getElem?_mapIdx, Option.map_map]
    rfl
  rw [ids]
  cases batch with
  | json body payload accepted =>
      apply List.ext_getElem?
      intro i
      simp only [assigned, List.getElem?_map, List.getElem?_mapIdx, Option.map_map]
      rfl
  | upload loads raw data entries prompts loaded listed read =>
      cases entries with
      | nil =>
          simp only [readUpload, loaded, listed] at read
          cases read
      | cons first rest =>
          simp only [readUpload, loaded, listed] at read
          have same := promptIds_of_entries (first :: rest) 0 prompts read
          simp only [Nat.add_zero] at same
          rw [same]
          apply List.ext_getElem?
          intro i
          simp only [assigned, List.getElem?_map, List.getElem?_mapIdx, Option.map_map]
          rfl

/-! ### The results -/

/-- The results of a completed job carry the identities of its items, in their order. -/
theorem ids_of_completed {p : Params} {ok : Engine → Label → Engine → Prop}
    {events : List Event} {e : Engine} {jobId : JobId} {job : Job} {prompts : List PromptItem}
    (run : (engineMachine p).Reaches ok events e) (found : e.store.get jobId = some job)
    (completed : job.state = .completed) (submitted : submissionOf jobId events = some prompts) :
    job.orderedResults.map InferenceResult.id = (workItems prompts).map WorkItem.id := by
  have ledger : Ledger False events e :=
    reachable_ledger False (fun _ _ _ _ impossible => impossible.elim) run
  obtain ⟨prompts', lost, account⟩ := ledger.known jobId job found
  have same := account.submitted
  rw [submitted, Option.some.injEq] at same
  subst same
  have answered : ∀ item ∈ workItems prompts, answeredBy job (fun _ => true) item = true := by
    intro item member
    obtain ⟨result, read, _⟩ :=
      account.result_of_complete (reachable_finished run found completed) member
    simp only [answeredBy, read]
    rfl
  have pairs := congrArg (List.map Prod.fst) (account.results_items (fun _ => true))
  rw [List.filter_eq_self.mpr answered, List.filter_eq_self.mpr (fun _ _ => rfl), List.map_map,
    List.map_map] at pairs
  exact pairs

/-- The identities of the items of a batch, and those of the results once its job is
completed, are distinct exactly if no name of its caller meets a generated identity. -/
theorem prompt_ids_distinct_iff (p : Params) {prompts : List PromptItem}
    {supplied : List (Option String)} (batch : Submits prompts supplied)
    (apart : NamesApart supplied) :
    (((workItems prompts).map WorkItem.id).Nodup ↔ ¬Clash supplied) ∧
      ∀ events e jobId job, (engineMachine p).Reaches Machine.anyStep events e →
        e.store.get jobId = some job → job.state = .completed →
        submissionOf jobId events = some prompts →
          ((job.orderedResults.map InferenceResult.id).Nodup ↔ ¬Clash supplied) := by
  have items : ((workItems prompts).map WorkItem.id).Nodup ↔ ¬Clash supplied := by
    rw [ids_of_submits batch]
    exact assigned_nodup_iff apart
  refine ⟨items, ?_⟩
  intro events e jobId job run found completed submitted
  rw [ids_of_completed run found completed submitted]
  exact items

theorem position_of_two {first second value : Option String} {i : Nat}
    (read : [first, second][i]? = some value) : i = 0 ∧ value = first ∨ i = 1 ∧ value = second := by
  match i with
  | 0 =>
      cases read
      exact Or.inl ⟨rfl, rfl⟩
  | 1 =>
      cases read
      exact Or.inr ⟨rfl, rfl⟩
  | i + 2 => cases read

theorem namesApart_of_one {first second : Option String} (one : first = none ∨ second = none) :
    NamesApart [first, second] := by
  intro i j name read read'
  rcases position_of_two read with ⟨rfl, named⟩ | ⟨rfl, named⟩
  · rcases position_of_two read' with ⟨rfl, _⟩ | ⟨rfl, named'⟩
    · rfl
    · rw [← named, ← named'] at one
      simp at one
  · rcases position_of_two read' with ⟨rfl, named'⟩ | ⟨rfl, _⟩
    · rw [← named, ← named'] at one
      simp at one
    · rfl

/-- Two prompts are answered by one worker. -/
def bothAnswered (prompts : List PromptItem) : List Label :=
  [.submit prompts .normal none "a",
    .work 0 .start, .work 0 .enter, .work 0 .take, .work 0 .gate,
    .work 0 (.reply (.returned "hi") 0), .work 0 .leave,
    .work 0 .enter, .work 0 .take, .work 0 .gate, .work 0 (.reply (.returned "hi") 0)]

def isCompleted (prompts : List PromptItem) (outcome : List Event × Engine) : Bool :=
  decide (submissionOf "a" outcome.1 = some prompts) &&
    (outcome.2.store.get "a").any (fun job => decide (job.state = .completed))

/-- The array `["hello", {"id": "x", "prompt": "again"}]`. -/
def mixedUpload : List Json :=
  [.string "hello", .object [("id", .string "x"), ("prompt", .string "again")]]

/-- A bare string beside a prompt with another name. -/
theorem prompt_ids_distinct_mixed :
    ∃ events e job, (engineMachine singleWorker).Reaches Machine.anyStep events e ∧
      e.store.get "a" = some job ∧ job.state = .completed ∧
      (job.orderedResults.map InferenceResult.id).Nodup := by
  let prompts : List PromptItem :=
    [{ id := some "prompt-1", prompt := "hello" }, { id := some "x", prompt := "again" }]
  have batch : Submits prompts [none, some "x"] :=
    .upload (fun _ => .ok (.array mixedUpload)) [] (.array mixedUpload) mixedUpload prompts rfl rfl
      rfl
  have apart : NamesApart [none, some "x"] := namesApart_of_one (Or.inl rfl)
  have clear : ¬Clash [none, some "x"] := by
    rintro ⟨i, j, named, unnamed⟩
    rcases position_of_two unnamed with ⟨rfl, _⟩ | ⟨_, impossible⟩
    · rcases position_of_two named with ⟨_, impossible⟩ | ⟨_, same⟩
      · cases impossible
      · exact absurd same (by decide)
    · cases impossible
  rcases Machine.exists_anyRun_of_exec (engineMachine singleWorker)
      (engineMachine singleWorker).initial (bothAnswered prompts) (isCompleted prompts)
      (by decide +kernel) with ⟨events, e, run, tested⟩
  unfold isCompleted at tested
  simp only [Bool.and_eq_true, decide_eq_true_eq, Option.any_eq_true] at tested
  obtain ⟨submitted, job, found, completed⟩ := tested
  obtain ⟨_, results⟩ := prompt_ids_distinct_iff singleWorker batch apart
  exact ⟨events, e, job, run, found, completed,
    (results events e "a" job run found completed submitted).mpr clear⟩

/-- The first prompt is called what the second one, without a name, will be called. -/
theorem prompt_ids_collide :
    ∃ prompts supplied events e job, Submits prompts supplied ∧ NamesApart supplied ∧
      (engineMachine singleWorker).Reaches
        (Machine.onLabels (fun label => BeforeShutdown label ∧ WellBehaved label)) events e ∧
      submissionOf "a" events = some prompts ∧ e.store.get "a" = some job ∧
      job.state = .completed ∧
      job.orderedResults.map InferenceResult.id = ["prompt-2", "prompt-2"] := by
  let prompts : List PromptItem :=
    [{ id := some "prompt-2", prompt := "hello" }, { id := none, prompt := "again" }]
  have batch : Submits prompts [some "prompt-2", none] :=
    .json (.object [("prompts", .array
        [.object [("id", .string "prompt-2"), ("prompt", .string "hello")],
          .object [("prompt", .string "again")]])])
      { prompts := prompts
        priority := .normal } rfl
  rcases @Machine.exists_run_of_exec _ _ _ (engineMachine singleWorker)
      (Machine.onLabels (fun label => BeforeShutdown label ∧ WellBehaved label))
      (engineMachine singleWorker).initial (fun _ label _ => isWellBehaved label)
      (fun _ _ _ checked => wellBehaved_of_check checked) (bothAnswered prompts)
      (isCompleted prompts) (by decide +kernel) with ⟨events, e, run, tested⟩
  unfold isCompleted at tested
  simp only [Bool.and_eq_true, decide_eq_true_eq, Option.any_eq_true] at tested
  obtain ⟨submitted, job, found, completed⟩ := tested
  refine ⟨prompts, _, events, e, job, batch, namesApart_of_one (Or.inr rfl), run, submitted, found,
    completed, ?_⟩
  rw [ids_of_completed run found completed submitted, ids_of_submits batch]
  rfl

end PromptIds
end BatchInference
