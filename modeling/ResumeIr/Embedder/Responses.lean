import ResumeIr.Embedder.Supervisor

/-!
# Responses of the worker

A worker has at most one piece of work: a request it has not read, one it works on, or a
response on its way to the supervisor (`Child.load`). What it has belongs to the task
that the supervisor waits for, and between two tasks it has none (`Child.Fits`). A task
that is given up takes its worker with it. So the response that a task is answered with
was computed for that task (`Answered`).
-/

namespace ResumeIr.Embedder

open Foundation Fallible

variable {F : Type}

/-! ## What a child has to do -/

/-- A worker that has not come up yet owes a frame, too. -/
def Worker.load : Worker → Nat
  | .starting => 1
  | .reading => 0
  | .inferring _ => 1
  | .exited => 0

namespace Child

/-- The response that waits in the channel. -/
def received (c : Child F) : List (Frame F) :=
  match c.channel with
  | some (.ok frame) => [frame]
  | _ => []

def frames (c : Child F) : List (Frame F) := c.stdout ++ c.received

def load (c : Child F) : Nat := c.stdin.length + c.worker.load + c.frames.length

variable {finite : F → Bool} {spec : ResidentEmbeddingSpec}

/-- Passing something on makes nothing new. -/
theorem frames_deliver (c : Child F) {stdout : List (Frame F)}
    {message : Except EmbeddingError (Frame F)} {frame : Frame F}
    (member : frame ∈ (c.deliver stdout message).frames) :
    frame ∈ stdout ∨ frame ∈ c.received ∨ message = .ok frame := by
  unfold frames received deliver at member
  unfold received
  cases channel : c.channel with
  | none =>
    cases message with
    | error => simp [channel] at member; exact .inl member
    | ok sent =>
      simp [channel] at member
      obtain inside | rfl := member
      · exact .inl inside
      · exact .inr (.inr rfl)
  | some earlier =>
    simp only [channel] at member ⊢
    obtain inside | inside := List.mem_append.mp member
    · exact .inl inside
    · exact .inr (.inl inside)

theorem load_deliver_le (c : Child F) (stdout : List (Frame F))
    (message : Except EmbeddingError (Frame F)) :
    (c.deliver stdout message).load ≤
      c.stdin.length + c.worker.load + (stdout.length + c.received.length + 1) := by
  unfold load frames received deliver
  cases c.channel <;> cases message <;> simp

theorem load_deliver_error_le (c : Child F) (stdout : List (Frame F)) (error : EmbeddingError) :
    (c.deliver stdout (.error error)).load ≤
      c.stdin.length + c.worker.load + (stdout.length + c.received.length) := by
  unfold load frames received deliver
  cases c.channel <;> simp

/-- A child does not get more to do by itself. -/
theorem load_after_le (c : Child F) (event : ChildEvent F) :
    (c.after finite spec event).load ≤ c.load := by
  cases event with
  | ready =>
    dsimp only [after]
    split
    next starting => simp [load, frames, received, starting, Worker.load]; omega
    · exact le_rfl
  | read =>
    dsimp only [after]
    split
    next request rest reading stdin =>
      unfold accept
      split
      · simp [load, frames, received, stdin]
        omega
      · simp [load, frames, received, stdin, Worker.load]
    · exact le_rfl
  | infer output | inferenceFails =>
    dsimp only [after]
    split
    next request inferring => simp [load, frames, received, inferring, Worker.load]; omega
    · exact le_rfl
  | exit =>
    show c.stdin.length + 0 + c.frames.length ≤ c.load
    unfold load
    omega
  | relay =>
    dsimp only [after, relay]
    split
    · split
      next frame rest stdout =>
        refine (c.load_deliver_le _ _).trans ?_
        simp only [load, frames, stdout, List.length_append, List.length_cons]
        omega
      next empty =>
        split
        · refine (c.load_deliver_error_le _ _).trans ?_
          simp only [load, frames, empty, List.length_append, le_refl]
        · exact le_rfl
    · exact le_rfl
  | breaks =>
    dsimp only [after]
    split
    · refine (c.load_deliver_error_le _ _).trans ?_
      simp only [load, frames, List.length_append, le_refl]
    · exact le_rfl

end Child

/-! ## What a response was computed for -/

/-- A frame of a worker that serves one request: it belongs to the task of the request, and
the vectors in it are what the model returned for the texts of the request. -/
def Frame.Answers (model : List String → ResidentBatchOutput F → Prop)
    (request : Tagged EmbedRequest) (frame : Frame F) : Prop :=
  frame.1 = some request.task ∧
    ∀ schema id vectors telemetry, frame.2 = .result schema id vectors telemetry →
      ∃ output, model request.value.texts output ∧ output.vectors = vectors

/-- A worker that refuses a request sends no vectors. -/
theorem answers_of_refusal {model : List String → ResidentBatchOutput F → Prop}
    {request : Tagged EmbedRequest} {modelId : String} {dimension : Nat}
    {refusal : ResidentResponse F} (refused : requestRefusal modelId dimension request.value =
      some refusal) : Frame.Answers model request (some request.task, refusal) := by
  unfold requestRefusal at refused
  split at refused
  · obtain rfl := Option.some.inj refused
    exact ⟨rfl, nofun⟩
  · split at refused
    · obtain rfl := Option.some.inj refused
      exact ⟨rfl, nofun⟩
    · cases refused

/-- Everything that a child has belongs to one request. -/
structure Child.Serves (model : List String → ResidentBatchOutput F → Prop)
    (request : Tagged EmbedRequest) (c : Child F) : Prop where
  up : c.worker ≠ .starting
  unread : ∀ other ∈ c.stdin, other = request
  working : ∀ other, c.worker = .inferring other → other = request
  answers : ∀ frame ∈ c.frames, Frame.Answers model request frame

namespace Child

variable {finite : F → Bool} {spec : ResidentEmbeddingSpec}
  {model : List String → ResidentBatchOutput F → Prop} {request : Tagged EmbedRequest}
  {c : Child F}

/-- The worker adds a frame at the end of its output. -/
theorem Serves.write {d : Child F} {frame : Frame F} (serves : c.Serves model request)
    (stdout : d.stdout = c.stdout ++ [frame]) (channel : d.channel = c.channel)
    (answers : Frame.Answers model request frame) :
    ∀ other ∈ d.frames, Frame.Answers model request other := by
  intro other member
  have cases : other ∈ c.frames ∨ other = frame := by
    simp only [Child.frames, received, stdout, channel, List.mem_append, List.mem_singleton]
      at member ⊢
    tauto
  obtain old | rfl := cases
  · exact serves.answers other old
  · exact answers

theorem Serves.deliver (serves : c.Serves model request) {stdout : List (Frame F)}
    {message : Except EmbeddingError (Frame F)} (within : ∀ frame ∈ stdout, frame ∈ c.stdout)
    (sent : ∀ frame, message = .ok frame → frame ∈ c.stdout) :
    ∀ other ∈ (c.deliver stdout message).frames, Frame.Answers model request other := by
  intro other member
  refine serves.answers other ?_
  obtain there | there | same := c.frames_deliver member
  · exact List.mem_append_left _ (within other there)
  · exact List.mem_append_right _ there
  · exact List.mem_append_left _ (sent other same)

/-- The child goes on serving the request, with outputs that the model relates to the
texts it was given. -/
theorem Serves.after (serves : c.Serves model request) (event : ChildEvent F)
    (modelled : ∀ output, event = .infer output → ∀ other, c.worker = .inferring other →
      model other.value.texts output) : (c.after finite spec event).Serves model request := by
  cases event with
  | ready =>
    dsimp only [Child.after]
    rw [if_neg serves.up]
    exact serves
  | inferenceFails =>
    dsimp only [Child.after]
    split
    next other inferring =>
      obtain rfl := serves.working other inferring
      exact ⟨nofun, serves.unread, nofun, serves.write rfl rfl ⟨rfl, nofun⟩⟩
    · exact serves
  | read =>
    dsimp only [Child.after]
    split
    next other rest reading stdin =>
      have unread : ∀ later ∈ rest, later = request := fun later member =>
        serves.unread later (by simp [stdin, member])
      obtain rfl : other = request := serves.unread other (by simp [stdin])
      unfold accept
      split
      next refusal refused =>
        exact ⟨serves.up, unread, by simp [reading],
          serves.write rfl rfl (answers_of_refusal refused)⟩
      · refine ⟨nofun, unread, ?_, serves.answers⟩
        rintro _ ⟨⟩
        rfl
    · exact serves
  | infer output =>
    dsimp only [Child.after]
    split
    next other inferring =>
      have known := modelled output rfl other inferring
      obtain rfl := serves.working other inferring
      refine ⟨nofun, serves.unread, nofun, serves.write rfl rfl ⟨rfl, ?_⟩⟩
      rintro _ _ _ _ ⟨⟩
      exact ⟨output, known, rfl⟩
    · exact serves
  | exit => exact ⟨nofun, serves.unread, nofun, serves.answers⟩
  | relay =>
    dsimp only [Child.after, relay]
    split
    · split
      next frame rest stdout =>
        refine ⟨serves.up, serves.unread, serves.working, serves.deliver ?_ ?_⟩
        · intro other member
          simp [stdout, member]
        · intro other sent
          split at sent
          · cases sent
            simp [stdout]
          · cases sent
      · split
        · exact ⟨serves.up, serves.unread, serves.working, serves.deliver nofun nofun⟩
        · exact serves
    · exact serves
  | breaks =>
    dsimp only [Child.after]
    split
    · exact ⟨serves.up, serves.unread, serves.working,
        serves.deliver (fun _ there => there) nofun⟩
    · exact serves

end Child

variable (model : List String → ResidentBatchOutput F → Prop) (spec : ResidentEmbeddingSpec)

/-- What the child has while the supervisor is in a phase. A child that is about to be
terminated may have anything. -/
def Child.Fits (c : Child F) : Phase F → Prop
  | .spawning _ _ => c.load ≤ 1
  | .checking exchange => c.load ≤ 1 ∧ c.Serves model ⟨exchange.task.id, exchange.request⟩
  | .receiving exchange => c.load ≤ 1 ∧ c.Serves model ⟨exchange.task.id, exchange.request⟩
  | .failing _ _ => True
  | _ => c.load = 0

/-- The vectors are what the model returned for the inputs, in their order. -/
def Computed (inputs : List EmbeddingInput) (vectors : List (EmbeddingVector F)) : Prop :=
  ∃ output, model (inputs.map fun input => prefixedResidentText ⟨input.role, input.text⟩) output ∧
    vectors.map (·.values) = output.vectors ∧ vectors.map (·.id) = inputs.map (·.id) ∧
    ∀ vector ∈ vectors, vector.modelId = spec.modelId

/-- A task is answered with vectors only if the response belonged to it, and the vectors
were computed for its inputs. -/
def Answered (task : EmbeddingTask) (origin : Option TaskId) (outcome : Outcome F) : Prop :=
  ∀ vectors telemetry, outcome = .ok (vectors, telemetry) →
    origin = some task.id ∧ Computed model spec task.inputs vectors

def Phase.Right : Phase F → Prop
  | .checking exchange | .receiving exchange =>
      exchange.request.inputs = exchange.task.inputs.map fun input => ⟨input.role, input.text⟩
  | .replying task origin outcome _ => Answered model spec task origin outcome
  | _ => True

structure Sane (s : Supervised F) : Prop where
  child : ∀ c ∈ s.child, c.Fits model s.phase
  right : s.phase.Right model spec

variable {exchange : Exchange} {task : EmbeddingTask}

section Sanity

variable {finite : F → Bool} {spec : ResidentEmbeddingSpec}
  {model : List String → ResidentBatchOutput F → Prop} {s : Supervised F}

theorem Child.Fits.after {c : Child F} {phase : Phase F} (fits : c.Fits model phase)
    (event : ChildEvent F)
    (modelled : ∀ output, event = .infer output → ∀ other, c.worker = .inferring other →
      model other.value.texts output) : (c.after finite spec event).Fits model phase := by
  have light : (c.after finite spec event).load ≤ c.load := c.load_after_le event
  cases phase with
  | checking exchange | receiving exchange =>
    exact ⟨light.trans fits.1, fits.2.after event modelled⟩
  | spawning => exact light.trans fits
  | failing => trivial
  | _ => exact Nat.le_zero.mp (light.trans fits.le)

/-- The ids of the inputs are put to the vectors in their order. -/
theorem toVectors_spec {inputs : List EmbeddingInput} {values : List (List F)}
    {vectors : List (EmbeddingVector F)} (length : values.length = inputs.length)
    (done : Supervised.toVectors spec inputs values = .ok vectors) :
    vectors.map (·.values) = values ∧ vectors.map (·.id) = inputs.map (·.id) ∧
      ∀ vector ∈ vectors, vector.modelId = spec.modelId := by
  induction inputs generalizing values vectors with
  | nil =>
    obtain rfl := List.length_eq_zero_iff.mp length
    cases done
    simp
  | cons input rest ih =>
    cases values with
    | nil => cases length
    | cons value values =>
      unfold Supervised.toVectors at done
      rw [List.zip_cons_cons, List.mapM_cons] at done
      obtain ⟨vector, first, done⟩ := bind_ok_iff.mp done
      obtain ⟨others, later, done⟩ := bind_ok_iff.mp done
      cases done
      obtain ⟨valuesEq, idsEq, models⟩ := ih (Nat.succ.inj length) later
      unfold EmbeddingVector.new at first
      split at first
      · cases first
        refine ⟨by simp [valuesEq], by simp [idsEq], ?_⟩
        intro vector member
        obtain rfl | member := List.mem_cons.mp member
        · rfl
        · exact models vector member
      · cases first

theorem map_eq_ok {α β : Type} {f : α → β} {x : Except EmbeddingError α} {b : β}
    (done : x.map f = .ok b) : ∃ a, x = .ok a ∧ f a = b := by
  cases x with
  | error => cases done
  | ok a => exact ⟨a, rfl, Except.ok.inj done⟩

/-- Only a result with one vector for each input is worth vectors. -/
theorem readResponse_ok {now : Nat} {response : ResidentResponse F}
    {vectors : List (EmbeddingVector F)} {telemetry : EmbeddingTelemetry}
    (done : Supervised.readResponse finite spec now exchange response = .ok (vectors, telemetry)) :
    ∃ schema id values measured, response = .result schema id values measured ∧
      values.length = exchange.task.inputs.length ∧
      Supervised.toVectors spec exchange.task.inputs values = .ok vectors := by
  unfold Supervised.readResponse at done
  split at done
  next valid =>
    cases response with
    | ready | error => cases done
    | result schema id values measured =>
      refine ⟨schema, id, values, measured, rfl, ?_, ?_⟩
      · simp only [ResidentResponse.validResult, Bool.and_eq_true, decide_eq_true_eq] at valid
        exact valid.1.1.2
      · obtain ⟨result, made, done⟩ := map_eq_ok done
        cases done
        exact made
  · cases done

/-- A response that is worth vectors answers the task that the supervisor waits for. -/
theorem answered_of_response {now : Nat} {frame : Frame F}
    {result : List (EmbeddingVector F) × EmbeddingTelemetry} (inputs : exchange.request.inputs =
      exchange.task.inputs.map fun input => ⟨input.role, input.text⟩)
    (answers : Frame.Answers model ⟨exchange.task.id, exchange.request⟩ frame)
    (done : Supervised.readResponse finite spec now exchange frame.2 = .ok result) :
    Answered model spec exchange.task frame.1 (.ok result) := by
  rintro vectors telemetry same
  obtain rfl := Except.ok.inj same
  obtain ⟨schema, id, values, measured, response, length, made⟩ := readResponse_ok done
  obtain ⟨output, known, rfl⟩ := answers.2 schema id values measured response
  obtain ⟨valuesEq, idsEq, models⟩ := toVectors_spec length made
  refine ⟨answers.1, output, ?_, valuesEq, idsEq, models⟩
  simp only [EmbedRequest.texts, inputs, List.map_map] at known
  exact known

/-- A child that has nothing to do serves whatever is written next. -/
theorem Child.serves_of_idle {c : Child F} (idle : c.load = 0) (request : Tagged EmbedRequest) :
    ({ c with stdin := c.stdin ++ [request] } : Child F).load ≤ 1 ∧
      ({ c with stdin := c.stdin ++ [request] } : Child F).Serves model request := by
  obtain ⟨⟨stdin, worker⟩, frames⟩ : (c.stdin = [] ∧ c.worker.load = 0) ∧ c.frames = [] := by
    simpa [Child.load] using idle
  refine ⟨?_, ?_, ?_, ?_, ?_⟩
  · simp only [Child.load, stdin, worker]
    show 1 + 0 + c.frames.length ≤ 1
    simp [frames]
  · intro starting
    have starting : c.worker = .starting := starting
    rw [starting] at worker
    cases worker
  · simp [stdin]
  · intro other inferring
    rw [inferring] at worker
    cases worker
  · intro frame member
    have member : frame ∈ c.frames := member
    rw [frames] at member
    cases member

/-- The supervisor takes the response, and the child has nothing left. -/
theorem Child.idle_of_received {c : Child F} {frame : Frame F} (light : c.load ≤ 1)
    (received : c.channel = some (.ok frame)) : ({ c with channel := none } : Child F).load = 0 := by
  simp only [Child.load, Child.frames, Child.received, received, List.length_append,
    List.length_cons] at light ⊢
  omega

theorem answered_error {origin : Option TaskId} {error : EmbeddingError} :
    Answered model spec task origin (.error error) := by
  intro _ _ same
  cases same

theorem sane_spawnReturns {purpose : SpawnPurpose} {child : Option (Child F)}
    (idle : ∀ c ∈ child, c.load = 0) : Sane model spec (s.spawnReturns purpose child) := by
  cases purpose with
  | first | restart => exact ⟨idle, trivial⟩
  | serve task =>
    cases child with
    | none => exact ⟨idle, answered_error⟩
    | some c => exact ⟨idle, trivial⟩

theorem sane_failed (purpose : SpawnPurpose) : Sane model spec (s.spawnReturns purpose none) :=
  sane_spawnReturns fun _ none => by cases none

theorem sane_awaitReady {deadline : Nat} {purpose : SpawnPurpose}
    (child : ∀ c ∈ s.child, c.load ≤ 1) (phase : s.phase = .spawning deadline purpose) :
    Sane model spec (s.awaitReady spec deadline purpose) := by
  unfold Supervised.awaitReady
  split
  · exact sane_failed purpose
  split
  · exact sane_failed purpose
  next c running =>
    split
    next frame received =>
      split
      · refine sane_spawnReturns fun d made => ?_
        obtain rfl := Option.some.inj made
        exact Child.idle_of_received (child c running) received
      · exact sane_failed purpose
    · exact sane_failed purpose
    · split
      · exact sane_failed purpose
      split
      · exact sane_failed purpose
      · refine ⟨fun d same => ?_, by simp [phase, Phase.Right]⟩
        simp only [phase]
        exact child d same

theorem sane_takeTask (child : ∀ c ∈ s.child, c.load = 0) : Sane model spec (s.takeTask task) := by
  unfold Supervised.takeTask
  dsimp only
  split
  · exact ⟨child, answered_error⟩
  split <;> exact ⟨child, trivial⟩

theorem sane_failing {t : Supervised F} {error : EmbeddingError}
    (phase : t.phase = .failing task error) : Sane model spec t := by
  refine ⟨fun c _ => ?_, ?_⟩ <;> rw [phase] <;> trivial

theorem sane_writeRequest (wrote : Bool) (child : ∀ c ∈ s.child, c.load = 0) :
    Sane model spec (s.writeRequest spec task wrote) := by
  unfold Supervised.writeRequest
  dsimp only
  split
  · exact sane_failing rfl
  split
  · exact sane_failing rfl
  next c running =>
    split
    · refine ⟨fun d made => ?_, rfl⟩
      obtain rfl := Option.some.inj made
      exact Child.serves_of_idle (child c running) _
    · exact sane_failing rfl

theorem sane_checkTask (sane : Sane model spec s) (phase : s.phase = .checking exchange) :
    Sane model spec (s.checkTask exchange) := by
  unfold Supervised.checkTask
  dsimp only
  split
  · exact sane_failing rfl
  split
  · exact sane_failing rfl
  · obtain ⟨child, right⟩ := sane
    rw [phase] at child right
    exact ⟨child, right⟩

theorem sane_receiveResponse (sane : Sane model spec s) (phase : s.phase = .receiving exchange) :
    Sane model spec (s.receiveResponse finite spec exchange) := by
  obtain ⟨child, right⟩ := sane
  rw [phase] at child right
  unfold Supervised.receiveResponse
  split
  · exact sane_failing rfl
  next c running =>
    obtain ⟨light, serves⟩ := child c running
    split
    next frame received =>
      dsimp only
      split
      next result worth =>
        refine ⟨fun d made => ?_, answered_of_response right (serves.answers frame ?_) worth⟩
        · obtain rfl := Option.some.inj made
          exact Child.idle_of_received light received
        · simp [Child.frames, Child.received, received]
      · exact sane_failing rfl
    · exact sane_failing rfl
    · split
      · exact sane_failing rfl
      split
      · exact sane_failing rfl
      · exact ⟨child, right⟩

/-- A step of the supervisor keeps the child and the task it serves together. -/
theorem sane_supervise (sane : Sane model spec s) (done : Bool) :
    Sane model spec (s.supervise finite spec done) := by
  have child := sane.child
  unfold Supervised.supervise
  split
  case h_1 purpose _ =>
    split
    · refine ⟨fun c made => ?_, trivial⟩
      obtain rfl := Option.some.inj made
      exact le_rfl
    · exact sane_failed purpose
  case h_2 phase => exact sane_awaitReady (by rwa [phase] at child) phase
  case h_7 phase => exact sane_takeTask (by rwa [phase] at child)
  case h_8 phase => exact sane_writeRequest done (by rwa [phase] at child)
  case h_9 phase => exact sane_checkTask sane phase
  case h_10 phase => exact sane_receiveResponse sane phase
  case h_11 => exact ⟨fun _ none => (by cases none), answered_error⟩
  case h_14 => exact ⟨fun _ none => (by cases none), trivial⟩
  case h_15 => exact sane
  -- in the other phases the child has nothing to do, before and after
  all_goals
    next phase =>
      rw [phase] at child
      split <;> exact ⟨child, trivial⟩

end Sanity

end ResumeIr.Embedder
