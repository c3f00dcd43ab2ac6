import FormLetter.Template.Stmt.Exec

/-!
Running templates know each other by name. Among other templates, in any order, a template runs in
the same way as long as every name stands for the same template. All that a computation can do is
put together from steps that look at the templates around by name, or not at all.
-/
namespace FormLetter.Template

variable {α β : Type}

/-- Every name stands for the same template. -/
def SameTemplates (ts us : List Template) : Prop :=
  ∀ name, ts.find? (·.name == name) = us.find? (·.name == name)

/-- The machine with other templates around. -/
def Machine.among (us : List Template) (m : Machine) : Machine :=
  { m with templates := us }

/-- Results that are the same, but for templates around that are the same by name. -/
inductive SameResult (us : List Template) :
    EStateM.Result Error Machine α → EStateM.Result Error Machine α → Prop where
  | ok {m : Machine} (a : α) :
      SameTemplates m.templates us → SameResult us (.ok a m) (.ok a (m.among us))
  | error {m : Machine} (e : Error) :
      SameTemplates m.templates us → SameResult us (.error e m) (.error e (m.among us))

/-- The computation knows the templates around by name only. -/
def ByName (x : Eval α) : Prop :=
  ∀ m us, SameTemplates m.templates us → SameResult us (x m) (x (m.among us))

namespace ByName

/-! ### Steps -/

theorem pure (a : α) : ByName (pure a : Eval α) :=
  fun _ _ same => .ok a same

theorem throw (e : Error) : ByName (throw e : Eval α) :=
  fun _ _ same => .error e same

theorem bind {x : Eval α} {f : α → Eval β} (first : ByName x) (second : ∀ a, ByName (f a)) :
    ByName (x >>= f) := by
  intro m us same
  have ran := first m us same
  change SameResult us (EStateM.bind x f m) (EStateM.bind x f (m.among us))
  unfold EStateM.bind
  generalize x m = r, x (m.among us) = s at ran
  -- Both go on with the same value, and from machines that are the same again but for `us`.
  cases ran with
  | ok a same => exact second a _ us same
  | error e same => exact .error e same

theorem templates_of_steady {g : Machine → Machine}
    (steady : ∀ m us, g (m.among us) = (g m).among us) (m : Machine) :
    (g m).templates = m.templates :=
  -- Among its own templates, a machine is as it was.
  Eq.trans (b := (g (m.among m.templates)).templates) rfl (by rw [steady]; rfl)

/-- A step that changes the machine and goes on with what it was. -/
theorem change {g : Machine → Machine} {k : Machine → Eval α}
    (steady : ∀ m us, g (m.among us) = (g m).among us)
    (blind : ∀ m us, SameTemplates m.templates us → k (m.among us) = k m)
    (rest : ∀ m, ByName (k m)) : ByName (get >>= fun m => set (g m) >>= fun _ => k m) := by
  intro m us same
  have kept : (g m).templates = m.templates := templates_of_steady steady m
  change SameResult us (k m (g m)) (k (m.among us) (g (m.among us)))
  rw [steady, blind m us same]
  exact rest m (g m) us (kept ▸ same)

/-- A step that looks at the machine. -/
theorem get {k : Machine → Eval α}
    (blind : ∀ m us, SameTemplates m.templates us → k (m.among us) = k m)
    (rest : ∀ m, ByName (k m)) : ByName (get >>= k) := by
  intro m us same
  change SameResult us (k m m) (k (m.among us) (m.among us))
  rw [blind m us same]
  exact rest m m us same

theorem modify {g : Machine → Machine} (steady : ∀ m us, g (m.among us) = (g m).among us) :
    ByName (modify g : Eval Unit) := by
  intro m us same
  have kept : (g m).templates = m.templates := templates_of_steady steady m
  change SameResult us (.ok () (g m)) (.ok () (g (m.among us)))
  rw [steady]
  exact .ok () (kept ▸ same)

theorem refuse (kind : ErrorKind) (detail : String) : ByName (Eval.refuse kind detail : Eval α) :=
  throw _

theorem attempt (result : Except Error α) : ByName (Eval.attempt result) := by
  cases result with
  | ok a => exact pure a
  | error e => exact throw e

theorem locate (line : Nat) {x : Eval α} (inner : ByName x) : ByName (Eval.locate line x) := by
  intro m us same
  have ran := inner m us same
  unfold Eval.locate
  generalize x m = r, x (m.among us) = s at ran
  cases ran with
  | ok a same => exact .ok a same
  | error e same => exact .error _ same

theorem instead (e : Error) {x : Eval α} (inner : ByName x) : ByName (Eval.instead e x) := by
  intro m us same
  have ran := inner m us same
  unfold Eval.instead
  generalize x m = r, x (m.among us) = s at ran
  cases ran with
  | ok a same => exact .ok a same
  | error _ same => exact .error e same

/-- A result that is reckoned from the machine. -/
theorem read {f : Machine → α} (blind : ∀ m us, f (m.among us) = f m) :
    ByName (do return f (← MonadState.get) : Eval α) :=
  get (fun m us _ => by rw [blind]) fun _ => pure _

theorem contentAt_among (m : Machine) (us : List Template) (bound n : Nat) :
    (m.among us).contentAt bound n = m.contentAt bound n := by
  -- Contents hold each other through cells only, so the induction is on how deep they are followed.
  induction bound generalizing n with
  | zero => rfl
  | succ bound ih =>
    have same : (m.among us).contentAt bound = m.contentAt bound := funext ih
    unfold Machine.contentAt
    rw [same]
    rfl

@[simp]
theorem settled_among (m : Machine) (us : List Template) : (m.among us).settled = m.settled := by
  funext v
  have same : (m.among us).contentAt = m.contentAt := by
    funext bound n
    exact contentAt_among m us bound n
  unfold Machine.settled
  rw [same]
  rfl

theorem settled (v : Value) : ByName (Eval.settled v) :=
  read fun _ _ => by rw [settled_among]

theorem attached (v : Value) : ByName (Eval.attached v) :=
  read fun _ _ => rfl

theorem settledAll (vs : List Value) : ByName (Eval.settledAll vs) :=
  read fun _ _ => by rw [settled_among]

theorem keptText (s : String) : ByName (Eval.keptText s) :=
  read fun _ _ => rfl

theorem emit_among (m : Machine) (us : List Template) (s : String) :
    (m.among us).emit s = (m.emit s).among us := by
  obtain ⟨_, _, _, _, _, captures, _⟩ := m
  rcases captures with _ | ⟨_ | _, _⟩ <;> rfl

theorem emit (s : String) : ByName (Eval.emit s) :=
  modify fun m us => emit_among m us s

theorem opened (v : Value) : ByName (Eval.opened v) := by
  unfold Eval.opened
  split
  next => exact settled _
  next => exact settled _
  next => exact pure _

theorem put (v : Value) : ByName (Eval.put v) :=
  get (fun _ _ _ => by rw [settled_among]; rfl) fun _ => emit _

theorem checkDepth : ByName Eval.checkDepth := by
  refine get (fun _ _ _ => rfl) fun m => ?_
  split
  next => exact refuse _ _
  next => exact pure _

theorem inFrame (f : Frame) {x : Eval α} (inner : ByName x) : ByName (Eval.inFrame f x) := by
  refine (checkDepth.bind fun _ => modify fun _ _ => rfl).bind fun _ => ?_
  exact inner.bind fun a => (modify fun _ _ => rfl).bind fun _ => pure a

theorem capture {x : Eval α} (inner : ByName x) : ByName (Eval.capture x) := by
  refine (modify fun _ _ => rfl).bind fun _ => inner.bind fun _ => ?_
  refine change (fun _ _ => rfl) (fun _ _ _ => rfl) fun m => ?_
  split <;> exact pure _

theorem discard {x : Eval α} (inner : ByName x) : ByName (Eval.discard x) := by
  refine (modify fun _ _ => rfl).bind fun _ => inner.bind fun a => ?_
  exact (modify fun _ _ => rfl).bind fun _ => pure a

/-! ### Calls -/

section Running

variable {run : Runner} (runs : ∀ j, ByName (run j))

include runs

theorem runVersion (b : BlockStack) : ByName (Eval.runVersion run b) := by
  unfold Eval.runVersion
  split
  next => exact pure ()
  next =>
    refine get (fun _ _ _ => rfl) fun m => ?_
    refine (inFrame _ ((modify fun _ _ => rfl).bind fun _ => runs _)).bind fun _ => ?_
    exact modify fun _ _ => rfl

theorem runBlock (name : String) : ByName (Eval.runBlock run name) := by
  refine get (fun _ _ _ => rfl) fun m => ?_
  split
  next => exact refuse _ _
  next b _ => exact runVersion runs b

theorem runSuper : ByName (Eval.runSuper run) := by
  refine get (fun _ _ _ => rfl) fun m => ?_
  split
  next => exact refuse _ _
  next b _ =>
    have level (n : Nat) : ByName (Eval.setLevel b.name n) := modify fun _ _ => rfl
    have above := (level (b.level + 1)).bind fun _ =>
      (instead (.of .badBlock "error in super block")
        (runVersion runs { b with level := b.level + 1 })).bind fun _ => level b.level
    split
    next => exact (refuse _ _).bind fun _ => above
    next => exact (pure ()).bind fun _ => above

theorem runRecursion (items : Value) : ByName (Eval.runRecursion run items) := by
  refine get (fun _ _ _ => rfl) fun m => ?_
  split
  next => exact refuse _ _
  next l _ =>
    split
    next =>
      refine (settled items).bind fun v => ?_
      split
      next => exact get (fun _ _ _ => rfl) fun _ => runs _
      next => exact locate _ (refuse _ _)
    next => exact refuse _ _

theorem callRoutine (r : Routine) (arguments : List Value) :
    ByName (Eval.callRoutine run r arguments) := by
  refine (attempt _).bind fun ⟨bound, caller⟩ => get (fun _ _ _ => rfl) fun m => ?_
  refine (capture ((modify fun _ _ => rfl).bind fun _ => checkDepth.bind fun _ => runs _)).bind
    fun text => ?_
  exact (modify fun _ _ => rfl).bind fun _ => keptText text

omit runs in
theorem newNamespace (arguments : List Value) : ByName (Eval.newNamespace arguments) := by
  refine (attempt _).bind fun names => ?_
  exact change (k := fun m => Pure.pure (Value.cell m.cells.size)) (fun _ _ => rfl)
    (fun _ _ _ => rfl) fun _ => pure _

omit runs in
theorem callBuiltin (b : Builtin) (arguments : List Value) :
    ByName (Eval.callBuiltin b arguments) := by
  cases b with
  | range => exact (settledAll _).bind fun _ => attempt _
  | dict => exact (settledAll _).bind fun _ => (attempt _).bind fun _ => attached _
  | debug => exact (settledAll _).bind fun _ => attempt _
  | newNamespace => exact (settledAll _).bind fun _ => newNamespace _

theorem callValue (callee : Value) (arguments : List Value) :
    ByName (Eval.callValue run callee arguments) := by
  unfold Eval.callValue
  split
  next r => exact callRoutine runs r arguments
  next b => exact callBuiltin b arguments
  next => exact refuse _ _
  next => split <;> exact refuse _ _

omit runs in
theorem loopChanged (n : Nat) (l : LoopState) (arguments : List Value) :
    ByName (Eval.loopChanged n l arguments) := by
  refine (settledAll _).bind fun now => ?_
  have watch := (modify (g := fun m => m.setCell n (.loop { l with watched := some now }))
    fun _ _ => rfl).bind fun _ => pure (Value.bool true)
  split
  next =>
    split
    next => exact pure _
    next => exact watch
  next => exact watch

theorem callLoopMethod (n : Nat) (name : String) (arguments : List Value) :
    ByName (Eval.callLoopMethod run n name arguments) := by
  refine get (fun _ _ _ => rfl) fun m => ?_
  split
  next => exact refuse _ _
  next l _ =>
    split
    next => exact loopChanged n l arguments
    next => exact pure _
    next =>
      split
      next => exact callValue runs _ _
      next => exact refuse _ _

theorem callMethod (v : Value) (name : String) (arguments : List Value) :
    ByName (Eval.callMethod run v name arguments) := by
  unfold Eval.callMethod
  split
  next n => exact callLoopMethod runs n name arguments
  next =>
    refine get (fun _ _ _ => rfl) fun m => ?_
    split
    next => exact callValue runs _ _
    next => exact refuse _ _

theorem callName (name : String) (arguments : List Value) :
    ByName (Eval.callName run name arguments) := by
  unfold Eval.callName
  split
  next => exact (capture (runSuper runs)).bind fun _ => keptText _
  next => exact refuse _ _
  next =>
    refine get (fun _ _ _ => rfl) fun m => ?_
    split
    next =>
      split
      next => exact (capture (runRecursion runs _)).bind fun _ => keptText _
      next => exact refuse _ _
    next => exact callValue runs _ _
    next => exact refuse _ _

/-! ### Expressions -/

omit runs

theorem nameValue (name : String) : ByName (Eval.nameValue name) :=
  read fun _ _ => rfl

theorem propertyOf (v : Value) (name : String) : ByName (Eval.propertyOf v name) := by
  unfold Eval.propertyOf
  split
  next => exact read fun _ _ => rfl
  next => exact read fun _ _ => rfl
  next => exact attempt _

theorem itemOf (v key : Value) : ByName (Eval.itemOf v key) := by
  unfold Eval.itemOf
  split
  next => exact read fun _ _ => rfl
  next => exact read fun _ _ => rfl
  next => exact pure _
  next => exact pure _
  next => exact (settled _).bind fun _ => attempt _

theorem callPure (callee : Callee) (arguments : List Value) :
    ByName (Eval.callPure callee arguments) :=
  (settledAll _).bind fun _ => (attempt _).bind fun _ => attached _

theorem applyFilter (name : String) (arguments : List Value) :
    ByName (Eval.applyFilter name arguments) :=
  get (fun _ _ _ => rfl) fun _ => callPure _ _

theorem applyTest (name : String) (made : Bool) (arguments : List Value) :
    ByName (Eval.applyTest name made arguments) :=
  (callPure _ _).bind fun _ => pure _

theorem operate (op : Operator) (a b : Value) : ByName (Eval.operate op a b) :=
  (settled a).bind fun _ => (settled b).bind fun _ => (attempt _).bind fun _ => attached _

theorem isTrue (v : Value) : ByName (Eval.isTrue v) :=
  (settled v).bind fun _ => pure _

theorem spreadNamed (v : Value) : ByName (Eval.spreadNamed v) := by
  refine (settled v).bind fun v => ?_
  split
  next => exact read fun _ _ => rfl
  next => exact refuse _ _

theorem spreadItems (given : List Eval.Given) : ByName (Eval.spreadItems given) := by
  induction given with
  | nil => exact pure _
  | cons first rest ih =>
    cases first with
    | positional v => exact ih.bind fun _ => pure _
    | spread v =>
      refine (settled v).bind fun _ => (attempt _).bind fun vs => ?_
      exact get (fun _ _ _ => rfl) fun _ => ih.bind fun _ => pure _
    | named => exact ih
    | spreadNamed => exact ih

theorem spreadEntries (found : List (String × Value)) (given : List Eval.Given) :
    ByName (Eval.spreadEntries found given) := by
  induction given generalizing found with
  | nil => exact pure _
  | cons first rest ih =>
    cases first with
    | positional => exact ih found
    | spread => exact ih found
    | named => exact ih _
    | spreadNamed v => exact (spreadNamed v).bind fun _ => ih _

theorem gather (line : Nat) (hasNamed : Bool) {positional named : Eval (List Eval.Given)}
    (first : ByName positional) (second : ByName named) :
    ByName (Eval.gather line hasNamed positional named) := by
  refine first.bind fun vs => second.bind fun ns => locate line ?_
  refine (spreadEntries _ _).bind fun _ => (spreadItems _).bind fun _ => ?_
  split <;> exact pure _

include runs

theorem finishCall (line : Nat) (called : Eval.Called) {arguments : Eval (List Value)}
    (given : ByName arguments) : ByName (Eval.finishCall run line called arguments) := by
  cases called with
  | block n => exact locate line ((capture (runBlock runs n)).bind fun _ => keptText _)
  | name n => exact given.bind fun _ => locate line (callName runs n _)
  | method v n => exact given.bind fun _ => locate line (callMethod runs v n _)
  | value v => exact given.bind fun _ => locate line (callValue runs v _)

-- The runner is used where calls are finished, and by the other theorems through that one.
set_option linter.unusedSectionVars false

mutual

theorem eval (input : Value) : ∀ e : Expr, ByName (e.eval run input)
  | .literal .. => pure _
  | .name .. => nameValue _
  | .list _ items => (evalAll input items).bind fun _ => pure _
  | .map _ entries => (evalEntries input [] entries).bind fun _ => pure _
  | .negate line e => (eval input e).bind fun v =>
    locate line ((settled v).bind fun _ => attempt _)
  | .not e => (eval input e).bind fun v => (isTrue v).bind fun _ => pure _
  | .both left right => (eval input left).bind fun v => (isTrue v).bind fun holds => by
    split
    next => exact eval input right
    next => exact pure v
  | .either left right => (eval input left).bind fun v => (isTrue v).bind fun holds => by
    split
    next => exact pure v
    next => exact eval input right
  | .operate line op left right => (eval input left).bind fun a => (eval input right).bind fun b =>
    locate line (operate op a b)
  | .chain first links => (eval input first).bind fun v => evalLinks input v links
  | .choose condition yes no => (eval input condition).bind fun v => (isTrue v).bind fun _ => by
    split
    next => exact eval input yes
    next => exact evalOption input .undefined no
  | .attribute line e name => (eval input e).bind fun v => locate line (propertyOf v name)
  | .item line e key => (eval input e).bind fun v => (eval input key).bind fun k =>
    locate line (itemOf v k)
  | .slice line e start stop step => (eval input e).bind fun v =>
    (evalOption input .none start).bind fun _ => (evalOption input .none stop).bind fun _ =>
    (evalOption input .none step).bind fun _ => locate line <|
    (settled v).bind fun _ => (attempt _).bind fun _ => attached _
  | .call line callee arguments => by
    -- Each callee ends in the same call, whose arguments are not looked at before.
    have finish (called : Eval.Called) := finishCall runs line called
      (gather line (arguments.any Argument.isNamed) (evalPositional input arguments)
        (evalNamed input arguments))
    unfold Expr.eval
    dsimp only
    split
    next => exact (pure _).bind finish
    next => exact (pure _).bind finish
    next e _ _ => exact (eval input e).bind fun _ => (pure _).bind finish
    next => exact (eval input _).bind fun _ => (pure _).bind finish
  | .filter line n e arguments => (evalOption input input e).bind fun v =>
    (gather line _ (evalPositional input arguments) (evalNamed input arguments)).bind fun _ =>
    locate line (applyFilter n _)
  | .test line n e arguments => (eval input e).bind fun v =>
    (gather line _ (evalPositional input arguments) (evalNamed input arguments)).bind fun _ =>
    locate line (applyTest n _ _)

theorem evalLinks (input left : Value) : ∀ links : List Link,
    ByName (FormLetter.Template.evalLinks run input left links)
  | [] => pure _
  | .mk line op negated right :: rest => (eval input right).bind fun v =>
    (locate line (operate op left v)).bind fun found => by
    split
    next => exact pure _
    next => exact evalLinks input v rest

theorem evalAll (input : Value) : ∀ items : List Expr,
    ByName (FormLetter.Template.evalAll run input items)
  | [] => pure _
  | e :: rest => (eval input e).bind fun _ => (evalAll input rest).bind fun _ => pure _

theorem evalOption (input missing : Value) : ∀ e : Option Expr,
    ByName (FormLetter.Template.evalOption run input missing e)
  | none => pure _
  | some e => eval input e

theorem evalEntries (input : Value) (found : List (Value × Value)) : ∀ entries : List Entry,
    ByName (FormLetter.Template.evalEntries run input found entries)
  | [] => pure _
  | .mk key value :: rest => (eval input key).bind fun _ => (eval input value).bind fun _ =>
    evalEntries input _ rest

theorem evalPositional (input : Value) : ∀ arguments : List Argument,
    ByName (FormLetter.Template.evalPositional run input arguments)
  | [] => pure _
  | .positional e :: rest | .spread e :: rest => (eval input e).bind fun _ =>
    (evalPositional input rest).bind fun _ => pure _
  | .named .. :: rest | .spreadNamed .. :: rest => evalPositional input rest

theorem evalNamed (input : Value) : ∀ arguments : List Argument,
    ByName (FormLetter.Template.evalNamed run input arguments)
  | [] => pure _
  | .named _ e :: rest | .spreadNamed e :: rest => (eval input e).bind fun _ =>
    (evalNamed input rest).bind fun _ => pure _
  | .positional .. :: rest | .spread .. :: rest => evalNamed input rest

end

/-! ### Statements -/

omit runs in
theorem mapFrame_among (m : Machine) (us : List Template) (f : Frame → Frame) :
    (m.among us).mapFrame f = (m.mapFrame f).among us := by
  obtain ⟨_, frames, _⟩ := m
  cases frames <;> rfl

omit runs in
theorem moveLoop_among (m : Machine) (us : List Template) (n index : Nat) (previous : Value)
    (ahead : List Value) :
    (m.among us).moveLoop n index previous ahead =
      (m.moveLoop n index previous ahead).among us := by
  have same : (m.among us).loopAt? n = m.loopAt? n := rfl
  unfold Machine.moveLoop
  rw [same]
  cases m.loopAt? n <;> rfl

omit runs in
theorem assign_among (m : Machine) (us : List Template) (name : String) (v : Value) :
    (m.among us).assign name v = (m.assign name v).among us := by
  obtain ⟨_, frames, _⟩ := m
  rcases frames with _ | ⟨⟨_, _, closure, _⟩, _⟩
  · rfl
  · cases closure <;> rfl

omit runs in
theorem forM {f : α → Eval Unit} (each : ∀ a, ByName (f a)) (as : List α) : ByName (as.forM f) := by
  induction as with
  | nil => exact pure ()
  | cons a rest ih => exact (each a).bind fun _ => ih

omit runs in
theorem mapM {f : α → Eval β} (each : ∀ a, ByName (f a)) (as : List α) : ByName (as.mapM f) := by
  have loop (found : List β) : ByName (List.mapM.loop f as found) := by
    induction as generalizing found with
    | nil => exact pure _
    | cons a rest ih => exact (each a).bind fun _ => ih _
  exact loop []

omit runs in
theorem assignProperty (owner : Value) (name : String) (v : Value) :
    ByName (Eval.assignProperty owner name v) := by
  unfold Eval.assignProperty
  split
  next => exact modify fun _ _ => rfl
  next => exact refuse _ _

mutual

theorem assign : ∀ (target : Target) (v : Value), ByName (target.assign run v)
  | .name n, v => modify fun m us => assign_among m us n v
  | .attribute owner name, v => (eval runs .undefined owner).bind fun o =>
    locate _ (assignProperty o name v)
  | .tuple line parts, v => (opened v).bind fun _ => (locate line (attempt _)).bind fun vs =>
    assignParts parts vs

theorem assignParts : ∀ (parts : List Target) (vs : List Value),
    ByName (FormLetter.Template.assignParts run parts vs)
  | p :: rest, v :: vs => (assign p v).bind fun _ => assignParts rest vs
  | [], _ => by unfold FormLetter.Template.assignParts; exact pure _
  | _ :: _, [] => by unfold FormLetter.Template.assignParts; exact pure _

end

theorem assignBindings (bindings : List (Target × Expr)) :
    ByName (Eval.assignBindings run bindings) := by
  induction bindings with
  | nil => exact pure ()
  | cons binding rest ih =>
    exact (eval runs _ _).bind fun v => (assign runs _ v).bind fun _ => ih

omit runs in
theorem eachItem {body : Value → Eval Unit} (each : ∀ v, ByName (body v)) (n index : Nat)
    (previous : Value) (items : List Value) :
    ByName (Eval.eachItem body n index previous items) := by
  induction items generalizing index previous with
  | nil => exact modify fun m us => moveLoop_among m us ..
  | cons v rest ih =>
    refine (modify fun m us => ?_).bind fun _ => (attempt _).bind fun v => (each v).bind fun _ =>
      ih _ _
    rw [moveLoop_among, mapFrame_among]

omit runs in
theorem runLoop (plan : LoopPlan) (items : List Value) (count : Option Nat)
    {body : Value → Eval Unit} (each : ∀ v, ByName (body v)) :
    ByName (Eval.runLoop plan items count body) :=
  change (k := fun m => Eval.locate plan.line (Eval.inFrame (Frame.ofLoop m.cells.size)
      (Eval.eachItem body m.cells.size 0 .undefined items)))
    (fun _ _ => rfl) (fun _ _ _ => rfl)
    fun _ => locate _ (inFrame _ (eachItem each _ _ _ _))

omit runs in
theorem chooseItems {assign : Value → Eval Unit} {condition : Eval Bool}
    (each : ∀ v, ByName (assign v)) (test : ByName condition) (items : List Value) :
    ByName (Eval.chooseItems assign condition items) := by
  induction items with
  | nil => exact pure _
  | cons v rest ih => exact (each v).bind fun _ => test.bind fun _ => ih.bind fun _ => pure _

omit runs in
theorem closureCell : ByName Eval.closureCell := by
  intro m us same
  obtain ⟨_, frames, _⟩ := m
  rcases frames with _ | ⟨⟨_, _, closure, _⟩, _⟩
  · exact .ok _ same
  · cases closure <;> exact .ok _ same

omit runs in
theorem remember (n : Nat) (name : String) : ByName (Eval.remember n name) := by
  refine modify fun m us => ?_
  have same : (m.among us).namesAt n = m.namesAt n := rfl
  dsimp only
  rw [same]
  split <;> rfl

omit runs in
theorem makeRoutine (name : String) (params : List Parameter) (body : List Stmt) :
    ByName (Eval.makeRoutine name params body) := by
  have routine := read (f := fun m => Value.routine {
    name := name
    parameters := params
    body := body
    template := m.template
    closure := m.frames.head?.bind (·.closure)
    wantsCaller := (freeNames params body).contains "caller" }) fun _ _ => rfl
  unfold Eval.makeRoutine
  dsimp only
  split
  next => exact closureCell.bind fun n => (forM (remember n) _).bind fun _ => routine
  next => exact (pure ()).bind fun _ => routine

omit runs in
theorem withEscaping (on : Bool) {x : Eval Unit} (inner : ByName x) :
    ByName (Eval.withEscaping on x) :=
  change (fun _ _ => rfl) (fun _ _ _ => rfl) fun _ => inner.bind fun _ => modify fun _ _ => rfl

omit runs in
theorem template?_among {m : Machine} {us : List Template} (same : SameTemplates m.templates us)
    (name : String) : (m.among us).template? name = m.template? name :=
  (same name).symm

omit runs in
theorem inheritFrom (v : Value) : ByName (Eval.inheritFrom v) := by
  -- What is looked up goes into the machine, so this is no step that sees the same on both sides.
  have look {k : Machine → Eval Unit} (known : ∀ m us, SameTemplates m.templates us →
      SameResult us (k m m) (k (m.among us) (m.among us))) : ByName (MonadState.get >>= k) :=
    fun m us same => known m us same
  refine look fun m us same => ?_
  have found := template?_among same
  have parent : (m.among us).parent = m.parent := rfl
  have loaded : (m.among us).loaded = m.loaded := rfl
  simp only [found, parent, loaded]
  cases m.parent.isSome with
  | true => exact .error _ same
  | false =>
    cases v.text? with
    | none => exact .error _ same
    | some name =>
      dsimp only
      cases m.loaded.contains name with
      | true => exact .error _ same
      | false =>
        cases m.template? name with
        | none => exact .error _ same
        | some t => exact .ok () same

theorem runInserted (t : Template) : ByName (Eval.runInserted run t) := by
  refine change (fun m us => ?_) (fun _ _ _ => rfl) fun m => ?_
  · dsimp only
    rw [mapFrame_among]
    rfl
  · refine checkDepth.bind fun _ => (instead _ (runs _)).bind fun _ => modify fun m us => ?_
    dsimp only
    rw [mapFrame_among]
    rfl

theorem runFirst (ignoreMissing : Bool) (tried choices : List Value) :
    ByName (Eval.runFirst run ignoreMissing tried choices) := by
  induction choices generalizing tried with
  | nil =>
    unfold Eval.runFirst
    split
    next => exact pure ()
    next => exact throw _
  | cons v rest ih =>
    unfold Eval.runFirst
    split
    next => exact refuse _ _
    next name _ =>
      refine get (fun m us same => by rw [template?_among same]) fun m => ?_
      split
      next t _ => exact runInserted runs t
      next => exact ih _

theorem insertTemplate (v : Value) (ignoreMissing : Bool) :
    ByName (Eval.insertTemplate run v ignoreMissing) :=
  (settled v).bind fun _ => runFirst runs _ _ _

theorem loading (line : Nat) (e : Expr) {take : Eval α} (taken : ByName take) :
    ByName (Eval.loading run line e take) :=
  locate line <| discard <| inFrame _ <| (eval runs _ e).bind fun _ =>
    (insertTemplate runs _ _).bind fun _ => taken

omit runs in
theorem ownNames : ByName Eval.ownNames :=
  get (fun _ _ _ => rfl) fun _ => pure _

theorem putExpr (line : Nat) (e : Expr) : ByName (Eval.putExpr run line e) := by
  unfold Eval.putExpr
  split
  next => exact locate _ (runSuper runs)
  next =>
    exact (gather _ _ (evalPositional runs _ _) (evalNamed runs _ _)).bind fun _ =>
      locate _ (runRecursion runs _)
  next => exact locate _ (runBlock runs _)
  next => exact (eval runs _ _).bind fun _ => put _

theorem calledBy (callee : Expr) : ByName (Eval.calledBy run callee) := by
  unfold Eval.calledBy
  split
  next => exact pure _
  next => exact pure _
  next => exact (eval runs _ _).bind fun _ => pure _
  next => exact (eval runs _ _).bind fun _ => pure _

theorem argumentsWith (line : Nat) (arguments : List Argument) (params : List Parameter)
    (body : List Stmt) : ByName (Eval.argumentsWith run line arguments params body) :=
  gather _ _ (evalPositional runs _ _) <| (evalNamed runs _ _).bind fun _ =>
    (makeRoutine _ _ _).bind fun _ => pure _

mutual

theorem exec : ∀ s : Stmt, ByName (s.exec run)
  | .raw _ text => emit text
  | .emit line e => putExpr runs line e
  | .loop line target items condition recursive body otherwise => by
    have empty (chosen : List Value) : ByName
        (if chosen.isEmpty then FormLetter.Template.execAll run otherwise else Pure.pure ()) := by
      split
      next => exact execAll otherwise
      next => exact pure ()
    unfold Stmt.exec
    refine (eval runs _ items).bind fun _ => (opened _).bind fun v => ?_
    refine (locate _ (attempt _)).bind fun all => ?_
    have rest (chosen : List Value) (count : Option Nat) :=
      (runLoop ⟨Expr.lastOf line [items], target, body, recursive⟩ chosen count
        fun v => (assign runs target v).bind fun _ => execAll body).bind fun _ => empty chosen
    cases condition with
    | none => exact (pure (all, v.turns?)).bind fun _ => rest _ _
    | some c =>
      refine (locate _ (inFrame _ (chooseItems (assign runs target) ?_ all))).bind fun chosen => ?_
      · exact (eval runs _ c).bind fun _ => isTrue _
      · exact (pure (chosen, some chosen.length)).bind fun _ => rest _ _
  | .branch _ condition yes no => (eval runs _ condition).bind fun _ => (isTrue _).bind fun _ => by
    split
    next => exact execAll yes
    next => exact execAll no
  | .scope line bindings body => locate line <| inFrame _ <| (assignBindings runs bindings).bind
    fun _ => execAll body
  | .assign _ target e => (eval runs _ e).bind fun _ => assign runs target _
  | .assignText _ target filter body => by
    unfold Stmt.exec
    refine (capture (execAll body)).bind fun _ => (keptText _).bind fun v => ?_
    cases filter with
    | none => exact (pure v).bind fun _ => assign runs target _
    | some f => exact (eval runs v f).bind fun _ => assign runs target _
  | .escaping line e body => (eval runs _ e).bind fun _ => (settled _).bind fun _ =>
    (locate line (attempt _)).bind fun on => withEscaping on (execAll body)
  | .filtered _ filter body => (capture (execAll body)).bind fun _ => (keptText _).bind fun _ =>
    (eval runs _ filter).bind fun _ => put _
  | .block line name _ => get (fun _ _ _ => rfl) fun m => by
    split
    next => exact locate line (runBlock runs name)
    next => exact pure ()
  | .inherit line e => (eval runs _ e).bind fun _ => locate line (inheritFrom _)
  | .insert line e ignoreMissing => (eval runs _ e).bind fun _ =>
    locate line (insertTemplate runs _ ignoreMissing)
  | .load line e target => (loading runs line e ownNames).bind fun _ => assign runs target _
  | .loadNames line e names => (loading runs line e (mapM (fun _ => nameValue _) names)).bind
    fun _ => forM (fun _ => modify fun m us => assign_among m us ..) _
  | .define _ name params body => (makeRoutine name params body).bind fun _ =>
    modify fun m us => assign_among m us ..
  | .callWith line callee arguments params body => (calledBy runs callee).bind fun called =>
    (finishCall runs line called (argumentsWith runs line arguments params body)).bind fun _ =>
    put _
  | .perform line callee arguments => (eval runs _ (.call line callee arguments)).bind fun _ =>
    pure ()

theorem execAll : ∀ stmts : List Stmt, ByName (FormLetter.Template.execAll run stmts)
  | [] => pure ()
  | s :: rest => (exec s).bind fun _ => execAll rest

end

theorem assignParameters (parameters : List (Parameter × Value)) :
    ByName (Eval.assignParameters run parameters) := by
  induction parameters with
  | nil => exact pure ()
  | cons parameter rest ih =>
    have assigned (v : Value) := modify (g := (·.assign parameter.1.name v)) fun m us =>
      assign_among m us ..
    unfold Eval.assignParameters
    refine ih.bind fun _ => ?_
    dsimp only
    split
    next => exact (eval runs _ _).bind assigned
    next => exact (pure _).bind assigned

theorem runParent : ByName (Eval.runParent run) := by
  refine get (fun _ _ _ => rfl) fun m => ?_
  split
  next => exact pure ()
  next => exact (modify fun _ _ => rfl).bind fun _ => runs _

end Running

theorem jump (bound : Nat) (j : Jump) : ByName (Eval.jump bound j) := by
  -- What a jump runs may jump in turn, with one less to go: that is the runner `ih` is about.
  induction bound generalizing j with
  | zero => exact refuse _ _
  | succ bound ih =>
    cases j with
    | body parameters stmts =>
      refine get (fun _ _ _ => rfl) fun m => ?_
      refine (modify fun _ _ => rfl).bind fun _ => (assignParameters ih _).bind fun _ => ?_
      exact (execAll ih _).bind fun _ => (runParent ih).bind fun _ => modify fun _ _ => rfl
    | loop plan items count =>
      exact runLoop _ _ _ fun _ => (assign ih _ _).bind fun _ => execAll ih _

end ByName

/-- As many other templates, the same by name, make no difference to a run. -/
theorem run_among {ts us : List Template} (same : SameTemplates ts us)
    (size : ts.length = us.length) (t : Template) (data : Value) :
    run ts t data = run us t data := by
  have ran := ByName.jump (Eval.jumpLimit ts) (.body [] t.body) (Machine.start ts t data) us same
  have limit : Eval.jumpLimit us = Eval.jumpLimit ts := by unfold Eval.jumpLimit; rw [size]
  have start : (Machine.start ts t data).among us = Machine.start us t data := rfl
  rw [start] at ran
  unfold run
  rw [limit]
  generalize Eval.jump (Eval.jumpLimit ts) (.body [] t.body) (Machine.start ts t data) = r,
    Eval.jump (Eval.jumpLimit ts) (.body [] t.body) (Machine.start us t data) = s at ran
  cases ran with
  | ok => rfl
  | error => rfl

end FormLetter.Template
