/-
The submission endpoints of app/main.py: a JSON body, and an uploaded JSON file.

What `json.loads` makes of the bytes is a parameter. The validators that pydantic
derives from `PromptItem` and `BatchRequest` are written out; only an
`HTTPException` becomes a client error, every other exception escapes.
-/

import BatchInference.EngineAdmission

set_option autoImplicit false

namespace BatchInference

/-- What `json.loads` returns. Numbers are not looked at and keep their text. -/
inductive Json where
  | null
  | bool (value : Bool)
  | number (text : String)
  | string (text : String)
  | array (items : List Json)
  | object (fields : List (String × Json))

inductive LoadsError where
  | jsonDecode (text : String)
  | unicodeDecode (text : String)

/-- An exception that leaves an endpoint. -/
inductive Raised where
  | http (statusCode : Nat) (detail : String) (retryAfter : Option Int)
  | unicodeDecode (text : String)
  /-- The fields that do not validate. -/
  | validation (fields : List String)

/-- The acknowledgment of a submission. -/
structure SubmitResponse where
  jobId : JobId
  state : JobState
  total : Nat
  priority : Priority
  idempotentReuse : Bool
  message : String
  statusUrl : String
  resultsUrl : String

/-- The payload of the JSON endpoint. -/
structure BatchRequest where
  prompts : List PromptItem
  priority : Priority

namespace Endpoints

open Engine

/-! ### The validators -/

def readId : Json → Option (Option String)
  | .null => some none
  | .string text => some (some text)
  | _ => none

def readPrompt : Json → Option String
  | .string text => if text = "" then none else some text
  | _ => none

/-- `PromptItem(id=id, prompt=prompt)`. -/
def promptItem (id prompt : Json) : Except Raised PromptItem :=
  match readId id, readPrompt prompt with
  | some id, some prompt =>
      .ok
        { id := id
          prompt := prompt }
  | none, some _ => .error (.validation ["id"])
  | some _, none => .error (.validation ["prompt"])
  | none, none => .error (.validation ["id", "prompt"])

/-- An entry of the body, validated as a `PromptItem`. -/
def readPromptItem : Json → Option PromptItem
  | .object fields =>
      (fields.lookup "prompt").bind (fun prompt =>
        (promptItem ((fields.lookup "id").getD .null) prompt).toOption)
  | _ => none

def readPrompts : Json → Option (List PromptItem)
  | .array entries => if entries.isEmpty then none else entries.mapM readPromptItem
  | _ => none

def readPriority : Option Json → Option Priority
  | none => some .normal
  | some (.string "high") => some .high
  | some (.string "normal") => some .normal
  | some (.string "low") => some .low
  | some _ => none

/-- The validation of a body as a `BatchRequest`. -/
def batchRequest : Json → Option BatchRequest
  | .object fields =>
      (fields.lookup "prompts").bind (fun prompts =>
        (readPrompts prompts).bind (fun prompts =>
          (readPriority (fields.lookup "priority")).map (fun priority =>
            { prompts := prompts
              priority := priority })))
  | _ => none

/-! ### The endpoints -/

def ack (base : String) (job : Job) (reused : Bool) : SubmitResponse :=
  { jobId := job.id
    state := job.state
    total := job.total
    priority := job.priority
    idempotentReuse := reused
    message :=
      if reused then "Existing job returned (idempotent)."
      else "Batch accepted. Processing in the background."
    statusUrl := s!"{base}/v1/jobs/{job.id}"
    resultsUrl := s!"{base}/v1/jobs/{job.id}/results" }

/-- The job that the engine returned. -/
def jobOf (jobId : JobId) (e : Engine) : Job :=
  (e.store.get jobId).getD
    { id := jobId
      createdAt := e.wallTime }

/-- What both endpoints make of the answer of the engine. -/
def answer (base : String) : Engine × SubmitResult → Engine × Except Raised SubmitResponse
  | (e, .overloaded retryAfter message) => (e, .error (.http 503 message (some retryAfter)))
  | (e, .conflict message) => (e, .error (.http 409 message none))
  | (e, .job jobId reused) => (e, .ok (ack base (jobOf jobId e) reused))

def submitBatch (p : Params) (base : String) (payload : BatchRequest)
    (idempotencyKey : Option String) (newId : JobId) (e : Engine) :
    Engine × Except Raised SubmitResponse :=
  answer base (e.submitWithIdempotency p payload.prompts payload.priority idempotencyKey newId)

/-- The array of prompts of an uploaded document. -/
def entriesOf : Json → Json
  | .object fields => (fields.lookup "prompts").getD .null
  | data => data

def malformedEntry (i : Nat) : Raised :=
  .http 400 s!"Item {i} must be a string or an object with a 'prompt' field." none

def uploadEntry (i : Nat) : Json → Except Raised PromptItem
  | .string text => promptItem (.string s!"prompt-{i + 1}") (.string text)
  | .object fields =>
      match fields.lookup "prompt" with
      | some prompt => promptItem ((fields.lookup "id").getD .null) prompt
      | none => .error (malformedEntry i)
  | _ => .error (malformedEntry i)

/-- The loop over the entries from position `i` on. -/
def uploadEntries (i : Nat) : List Json → Except Raised (List PromptItem)
  | [] => .ok []
  | entry :: rest =>
      match uploadEntry i entry with
      | .error raised => .error raised
      | .ok prompt =>
          match uploadEntries (i + 1) rest with
          | .error raised => .error raised
          | .ok prompts => .ok (prompt :: prompts)

/-- The prompts of an uploaded file. -/
def readUpload (loads : List UInt8 → Except LoadsError Json) (raw : List UInt8) :
    Except Raised (List PromptItem) :=
  match loads raw with
  | .error (.jsonDecode text) => .error (.http 400 s!"Invalid JSON: {text}" none)
  | .error (.unicodeDecode text) => .error (.unicodeDecode text)
  | .ok data =>
      match entriesOf data with
      | .array (first :: rest) => uploadEntries 0 (first :: rest)
      | _ =>
          .error (.http 400
            "Expected a non-empty JSON array of prompts (or \x7bprompts: [...]\x7d)." none)

def uploadBatch (p : Params) (loads : List UInt8 → Except LoadsError Json) (base : String)
    (raw : List UInt8) (priority : Priority) (idempotencyKey : Option String) (newId : JobId)
    (e : Engine) : Engine × Except Raised SubmitResponse :=
  match readUpload loads raw with
  | .error raised => (e, .error raised)
  | .ok prompts =>
      answer base (e.submitWithIdempotency p prompts priority idempotencyKey newId)

/-! ### The endpoints as steps of the engine -/

theorem answer_engine (base : String) (submitted : Engine × SubmitResult) :
    (answer base submitted).1 = submitted.1 := by
  obtain ⟨e, result⟩ := submitted
  cases result <;> rfl

section Steps

variable {p : Params} {base : String} {key : Option String} {newId : JobId} {e : Engine}
  (quiet : e.atAwait = true) (named : newId ≠ "") (fresh : e.store.get newId = none)

include quiet named fresh

/-- A body that validates is one submission to the engine. -/
theorem submitBatch_step (payload : BatchRequest) :
    (engineMachine p).step e (.submit payload.prompts payload.priority key newId) =
      some ((submitBatch p base payload key newId e).1,
        [.submitted payload.prompts payload.priority key
          (e.submitWithIdempotency p payload.prompts payload.priority key newId).2]) := by
  rw [EngineAdmission.step_of_requests (.submit _ _ _ _) quiet named fresh]
  unfold submitBatch
  rw [answer_engine]

/-- A file whose entries are read is one submission to the engine. -/
theorem uploadBatch_step {loads : List UInt8 → Except LoadsError Json} {raw : List UInt8}
    {prompts : List PromptItem} (read : readUpload loads raw = .ok prompts)
    (priority : Priority) :
    (engineMachine p).step e (.submit prompts priority key newId) =
      some ((uploadBatch p loads base raw priority key newId e).1,
        [.submitted prompts priority key
          (e.submitWithIdempotency p prompts priority key newId).2]) := by
  rw [EngineAdmission.step_of_requests (.submit _ _ _ _) quiet named fresh]
  unfold uploadBatch
  rw [read]
  simp only [answer_engine]

end Steps

/-! ### The entries of an upload -/

/-- Neither a string nor an object with a prompt. -/
def Malformed : Json → Prop
  | .string _ => False
  | .object fields => fields.lookup "prompt" = none
  | _ => True

/-- An entry with a prompt that `PromptItem` does not accept. -/
def Unfit : Json → Prop
  | .string text => text = ""
  | .object fields => ∃ prompt, fields.lookup "prompt" = some prompt ∧
      (readId ((fields.lookup "id").getD .null) = none ∨ readPrompt prompt = none)
  | _ => False

theorem readPrompt_eq_none_iff (text : String) : readPrompt (.string text) = none ↔ text = "" := by
  change (if text = "" then none else some text) = none ↔ text = ""
  split
  · rename_i empty
    exact ⟨fun _ => empty, fun _ => rfl⟩
  · rename_i nonempty
    exact ⟨fun impossible => absurd impossible (Option.some_ne_none text),
      fun empty => absurd empty nonempty⟩

theorem not_unfit_of_malformed {entry : Json} (malformed : Malformed entry) : ¬Unfit entry := by
  intro unfit
  cases entry with
  | string text => exact malformed
  | object fields =>
      obtain ⟨prompt, found, _⟩ := unfit
      have absent : fields.lookup "prompt" = none := malformed
      rw [found] at absent
      cases absent
  | null => exact unfit
  | bool value => exact unfit
  | number text => exact unfit
  | array items => exact unfit

theorem promptItem_cases (id prompt : Json) :
    (readId id = none ∨ readPrompt prompt = none) ∧
        (∃ fields, promptItem id prompt = .error (.validation fields)) ∨
      ∃ id' prompt', readId id = some id' ∧ readPrompt prompt = some prompt' ∧
        promptItem id prompt = .ok { id := id', prompt := prompt' } := by
  unfold promptItem
  cases readId id with
  | none =>
      cases readPrompt prompt with
      | none => exact Or.inl ⟨Or.inl rfl, _, rfl⟩
      | some prompt' => exact Or.inl ⟨Or.inl rfl, _, rfl⟩
  | some id' =>
      cases readPrompt prompt with
      | none => exact Or.inl ⟨Or.inr rfl, _, rfl⟩
      | some prompt' => exact Or.inr ⟨id', prompt', rfl, rfl, rfl⟩

theorem uploadEntry_cases (i : Nat) (entry : Json) :
    Malformed entry ∧ uploadEntry i entry = .error (malformedEntry i) ∨
      ¬Malformed entry ∧ Unfit entry ∧
        (∃ fields, uploadEntry i entry = .error (.validation fields)) ∨
      ¬Malformed entry ∧ ¬Unfit entry ∧ ∃ prompt, uploadEntry i entry = .ok prompt := by
  cases entry with
  | string text =>
      right
      rcases promptItem_cases (.string s!"prompt-{i + 1}") (.string text) with
        ⟨invalid, fields, raised⟩ | ⟨id, prompt, _, valid, same⟩
      · left
        refine ⟨not_false, ?_, fields, raised⟩
        rcases invalid with noId | noPrompt
        · cases noId
        · exact (readPrompt_eq_none_iff text).mp noPrompt
      · right
        refine ⟨not_false, ?_, _, same⟩
        intro empty
        rw [(readPrompt_eq_none_iff text).mpr empty] at valid
        cases valid
  | object fields =>
      cases found : fields.lookup "prompt" with
      | none =>
          left
          refine ⟨found, ?_⟩
          simp only [uploadEntry, found]
      | some prompt =>
          right
          have wellFormed : ¬Malformed (.object fields) := by
            intro missing
            have absent : fields.lookup "prompt" = none := missing
            rw [found] at absent
            cases absent
          have read : uploadEntry i (.object fields) =
              promptItem ((fields.lookup "id").getD .null) prompt := by
            simp only [uploadEntry, found]
          rcases promptItem_cases ((fields.lookup "id").getD .null) prompt with
            ⟨invalid, names, raised⟩ | ⟨id, text, validId, valid, same⟩
          · exact Or.inl ⟨wellFormed, ⟨prompt, found, invalid⟩, names, read.trans raised⟩
          · refine Or.inr ⟨wellFormed, ?_, _, read.trans same⟩
            rintro ⟨other, found', invalid⟩
            rw [found, Option.some.injEq] at found'
            rw [← found', validId, valid] at invalid
            rcases invalid with noId | noPrompt
            · cases noId
            · cases noPrompt
  | null => exact Or.inl ⟨trivial, rfl⟩
  | bool value => exact Or.inl ⟨trivial, rfl⟩
  | number text => exact Or.inl ⟨trivial, rfl⟩
  | array items => exact Or.inl ⟨trivial, rfl⟩

/-! ### The loop over the entries -/

/-- A client error of these endpoints, or an answer. -/
def Proper {Answer : Type} : Except Raised Answer → Prop
  | .ok _ => True
  | .error (.http statusCode _ _) => statusCode = 400 ∨ statusCode = 409 ∨ statusCode = 503
  | .error _ => False

/-- Every entry that `PromptItem` does not accept comes after one that is malformed. -/
def MalformedFirst (entries : List Json) : Prop :=
  ∀ front entry back, entries = front ++ entry :: back → Unfit entry →
    ∃ earlier ∈ front, Malformed earlier

theorem malformedFirst_cons_iff (entry : Json) (rest : List Json) :
    MalformedFirst (entry :: rest) ↔
      ¬Unfit entry ∧ (¬Malformed entry → MalformedFirst rest) := by
  constructor
  · intro ordered
    constructor
    · intro unfit
      obtain ⟨_, member, _⟩ := ordered [] entry rest rfl unfit
      cases member
    · intro wellFormed front later back same unfit
      obtain ⟨earlier, member, malformed⟩ :=
        ordered (entry :: front) later back (by rw [same]; rfl) unfit
      rcases List.mem_cons.mp member with rfl | inside
      · exact absurd malformed wellFormed
      · exact ⟨earlier, inside, malformed⟩
  · rintro ⟨fit, ordered⟩ front later back same unfit
    cases front with
    | nil =>
        cases same
        exact absurd unfit fit
    | cons first front =>
        obtain ⟨head, tail⟩ := List.cons.inj same
        rw [← head]
        by_cases malformed : Malformed entry
        · exact ⟨entry, List.mem_cons_self, malformed⟩
        · obtain ⟨earlier, member, found⟩ := ordered malformed front later back tail unfit
          exact ⟨earlier, List.mem_cons_of_mem _ member, found⟩

/-- The loop answers properly exactly if a malformed entry shields the unfit ones. -/
theorem uploadEntries_proper_iff (entries : List Json) :
    ∀ i, Proper (uploadEntries i entries) ↔ MalformedFirst entries := by
  induction entries with
  | nil =>
      intro i
      refine ⟨fun _ => ?_, fun _ => trivial⟩
      intro front entry back same
      cases front with
      | nil => cases same
      | cons first front => cases same
  | cons entry rest ih =>
      intro i
      rw [malformedFirst_cons_iff, uploadEntries]
      rcases uploadEntry_cases i entry with
        ⟨malformed, refused⟩ | ⟨wellFormed, unfit, fields, raised⟩ | ⟨wellFormed, fit, prompt, read⟩
      · simp only [refused]
        refine ⟨fun _ => ⟨not_unfit_of_malformed malformed, ?_⟩, fun _ => Or.inl rfl⟩
        exact fun wellFormed => absurd malformed wellFormed
      · simp only [raised]
        exact ⟨False.elim, fun both => both.1 unfit⟩
      · simp only [read]
        rw [and_iff_right fit, imp_iff_right wellFormed, ← ih (i + 1)]
        cases uploadEntries (i + 1) rest with
        | error raised => exact Iff.rfl
        | ok prompts => exact Iff.rfl

/-! ### The answer of the upload -/

theorem proper_answer (base : String) (submitted : Engine × SubmitResult) :
    Proper (answer base submitted).2 := by
  obtain ⟨e, result⟩ := submitted
  cases result with
  | overloaded retryAfter message => exact Or.inr (Or.inr rfl)
  | conflict message => exact Or.inr (Or.inl rfl)
  | job jobId reused => trivial

/-- The bytes are text, and in the array of the document every entry that `PromptItem` does
not accept comes after one that is malformed. -/
structure Readable (loads : List UInt8 → Except LoadsError Json) (raw : List UInt8) : Prop where
  decodes : ∀ text, loads raw ≠ .error (.unicodeDecode text)
  ordered : ∀ data entries, loads raw = .ok data → entriesOf data = .array entries →
    MalformedFirst entries

theorem malformedFirst_nil : MalformedFirst [] := by
  intro front entry back same
  cases front with
  | nil => cases same
  | cons first front => cases same

variable {loads : List UInt8 → Except LoadsError Json} {raw : List UInt8}

theorem readUpload_proper_iff : Proper (readUpload loads raw) ↔ Readable loads raw := by
  cases loaded : loads raw with
  | error failure =>
      have unread : ∀ data entries, loads raw = .ok data → entriesOf data = .array entries →
          MalformedFirst entries := by
        intro data entries read
        rw [loaded] at read
        cases read
      cases failure with
      | jsonDecode text =>
          simp only [readUpload, loaded]
          refine ⟨fun _ => ⟨fun other decoded => ?_, unread⟩, fun _ => Or.inl rfl⟩
          rw [loaded] at decoded
          cases decoded
      | unicodeDecode text =>
          simp only [readUpload, loaded]
          exact ⟨False.elim, fun readable => readable.decodes text loaded⟩
  | ok data =>
      have decodes : ∀ text, loads raw ≠ .error (.unicodeDecode text) := by
        intro text undecoded
        rw [loaded] at undecoded
        cases undecoded
      cases listed : entriesOf data with
      | array entries =>
          have readable : Readable loads raw ↔ MalformedFirst entries := by
            constructor
            · exact fun readable => readable.ordered data entries loaded listed
            · refine fun ordered => ⟨decodes, fun data' entries' loaded' listed' => ?_⟩
              rw [loaded] at loaded'
              cases loaded'
              rw [listed] at listed'
              cases listed'
              exact ordered
          rw [readable]
          cases entries with
          | nil =>
              simp only [readUpload, loaded, listed]
              exact ⟨fun _ => malformedFirst_nil, fun _ => Or.inl rfl⟩
          | cons first rest =>
              simp only [readUpload, loaded, listed]
              exact uploadEntries_proper_iff _ 0
      | _ =>
          simp only [readUpload, loaded, listed]
          refine ⟨fun _ => ⟨decodes, fun data' entries' loaded' listed' => ?_⟩,
            fun _ => Or.inl rfl⟩
          rw [loaded] at loaded'
          cases loaded'
          rw [listed] at listed'
          cases listed'

/-! ### The two endpoints -/

def isObject : Json → Bool
  | .object _ => true
  | _ => false

theorem uploadEntry_object (i : Nat) {entry : Json} (object : isObject entry = true) :
    (uploadEntry i entry).toOption = readPromptItem entry := by
  cases entry with
  | object fields =>
      cases found : fields.lookup "prompt" with
      | none =>
          simp only [uploadEntry, readPromptItem, found]
          rfl
      | some prompt =>
          simp only [uploadEntry, readPromptItem, found]
          rfl
  | _ => cases object

/-- On objects the loop and the validator of the body agree. -/
theorem uploadEntries_objects (entries : List Json)
    (objects : ∀ entry ∈ entries, isObject entry = true) :
    ∀ i, (uploadEntries i entries).toOption = entries.mapM readPromptItem := by
  induction entries with
  | nil => exact fun _ => rfl
  | cons entry rest ih =>
      intro i
      have later := ih (fun entry member => objects entry (List.mem_cons_of_mem _ member)) (i + 1)
      rw [List.mapM_cons, ← later, ← uploadEntry_object i (objects entry List.mem_cons_self),
        uploadEntries]
      cases uploadEntry i entry with
      | error raised => rfl
      | ok prompt =>
          cases uploadEntries (i + 1) rest with
          | error raised => rfl
          | ok prompts => rfl

theorem readUpload_objects {data : Json} {entries : List Json} (loaded : loads raw = .ok data)
    (listed : entriesOf data = .array entries)
    (objects : ∀ entry ∈ entries, isObject entry = true) :
    (readUpload loads raw).toOption = readPrompts (.array entries) := by
  cases entries with
  | nil =>
      simp only [readUpload, loaded, listed]
      rfl
  | cons first rest =>
      simp only [readUpload, loaded, listed]
      exact uploadEntries_objects (first :: rest) objects 0

/-- An upload is answered by a client error, or by the engine, exactly if it is readable.
A list of objects is submitted as the JSON endpoint submits it, if that accepts it, and
otherwise nothing is submitted. -/
theorem upload_answered_iff (p : Params) (loads : List UInt8 → Except LoadsError Json)
    (base : String) (raw : List UInt8) (priority : Priority) (key : Option String)
    (newId : JobId) (e : Engine) :
    (Proper (uploadBatch p loads base raw priority key newId e).2 ↔ Readable loads raw) ∧
      ∀ data entries, loads raw = .ok data → entriesOf data = .array entries →
        (∀ entry ∈ entries, isObject entry = true) →
          (∀ prompts, readPrompts (.array entries) = some prompts →
            uploadBatch p loads base raw priority key newId e =
              submitBatch p base
                { prompts := prompts
                  priority := priority } key newId e) ∧
          (readPrompts (.array entries) = none →
            ∃ raised, uploadBatch p loads base raw priority key newId e = (e, .error raised)) := by
  constructor
  · rw [← readUpload_proper_iff]
    unfold uploadBatch
    cases readUpload loads raw with
    | error raised =>
        cases raised with
        | http statusCode detail retryAfter => exact Iff.rfl
        | unicodeDecode text => exact Iff.rfl
        | validation fields => exact Iff.rfl
    | ok prompts =>
        exact ⟨fun _ => trivial, fun _ => proper_answer base _⟩
  · intro data entries loaded listed objects
    have same := readUpload_objects loaded listed objects
    unfold uploadBatch
    constructor
    · intro prompts accepted
      rw [accepted] at same
      cases read : readUpload loads raw with
      | error raised =>
          rw [read] at same
          cases same
      | ok prompts' =>
          rw [read] at same
          cases same
          rfl
    · intro refused
      rw [refused] at same
      cases read : readUpload loads raw with
      | error raised => exact ⟨raised, rfl⟩
      | ok prompts =>
          rw [read] at same
          cases same

/-- An array with an empty text, and a byte that is no text. -/
def sampleLoads : List UInt8 → Except LoadsError Json
  | [0x5b, 0x22, 0x22, 0x5d] => .ok (.array [.string ""])
  | [0xff] =>
      .error (.unicodeDecode
        "'utf-8' codec can't decode byte 0xff in position 0: invalid start byte")
  | _ => .error (.jsonDecode "Expecting value: line 1 column 1 (char 0)")

/-- An empty prompt and undecodable bytes leave the endpoint as other exceptions. -/
theorem upload_escapes :
    (∃ fields, (uploadBatch EngineItems.singleWorker sampleLoads "http://test"
        [0x5b, 0x22, 0x22, 0x5d] .normal none "a" (Engine.new EngineItems.singleWorker)).2 =
      .error (.validation fields)) ∧
    ∃ text, (uploadBatch EngineItems.singleWorker sampleLoads "http://test" [0xff] .normal none
        "a" (Engine.new EngineItems.singleWorker)).2 = .error (.unicodeDecode text) :=
  ⟨⟨["prompt"], rfl⟩, ⟨_, rfl⟩⟩

end Endpoints
end BatchInference
