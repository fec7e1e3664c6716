import HtmlCanon.Command.Memory
import HtmlCanon.Proofs.Fault

/-!
# What a job writes

A job reads, checks and canonicalizes before it writes. All that it does to files and streams up to
then is to tell notices, so a job that fails leaves every file as it was.

* `Job.made` : what a job makes of the bytes that it reads, and what goes wrong first.
* `Memory.after_run` : **one run of a job**, with what it leaves behind.
* `Memory.run_written` : **all or nothing**, in terms of the library.
-/

namespace HtmlCanon.Command

namespace Job

/-- The configuration of a job, when it can be used. -/
def loaded (j : Job) (config : Option (List UInt8)) : Except JobFault Config := do
  let c ← configOf j.config config
  check j.config c
  pure c

/-- The text of the page of a job, when it can be read. -/
def pageText (j : Job) (page : Option (List UInt8)) : Except JobFault Text :=
  match page with
  | some bs => pure (repairBytes bs)
  | none => throw (.unreadableInput j.input)

/-- What a job makes of the bytes of its configuration and of its page: the text that it is to write,
or the first thing that goes wrong. -/
def made (j : Job) (config page : Option (List UInt8)) : Except JobFault Text := do
  let c ← j.loaded config
  let t ← j.pageText page
  produce c j.options t

end Job

/-- The configuration in a file with the given bytes, which have to be UTF-8. -/
def configIn? (bs : List UInt8) : Option Config :=
  if Utf8.isValid bs then (Config.ofText (Utf8.decode bs)).toOption else none

/-- The configuration in a file, if the file can be read and the configuration passes the check. -/
def accepted? (config : Option (List UInt8)) : Option Config := do
  let c ← configIn? (← config)
  c.check.toOption
  pure c

/-- What the library makes of the bytes of a configuration and of a page, if all goes well. -/
def answer? (o : Options) (config page : Option (List UInt8)) : Option Text := do
  let c ← accepted? config
  let bs ← page
  (c.canonicalizeBytes o bs).toOption

namespace Memory

/-- How files and streams in memory are reached when standard input may not be readable. -/
def accessIf (readable : Bool) : Access (StateM Memory) :=
  { access with
    readInput := do
      let s ← get
      pure (if readable then some s.input else none) }

/-- The bytes of the page of a job, if they can be read. -/
def pageOf (j : Job) (readable : Bool) (s : Memory) : Option (List UInt8) :=
  match j.input with
  | some f => s.files f
  | none => if readable then some s.input else none

/-- The memory after the user was told something. -/
def told (ns : List Notice) (s : Memory) : Memory := { s with notices := s.notices ++ ns }

/-- What a part of a job gives, and the memory that it leaves. -/
def after {α : Type} (x : ExceptT JobFault (StateM Memory) α) (s : Memory) :
    Except JobFault α × Memory :=
  x.run.run s

variable {α β : Type} (j : Job) (readable : Bool)

theorem told_nil (s : Memory) : told [] s = s := by simp [told]

theorem told_told (ns ms : List Notice) (s : Memory) : told ms (told ns s) = told (ns ++ ms) s := by
  simp [told]

/-! ### The parts of a job -/

/-- One part after another: the second goes on where the first one succeeds. -/
theorem after_bind (x : ExceptT JobFault (StateM Memory) α)
    (f : α → ExceptT JobFault (StateM Memory) β) (s : Memory) :
    after (x >>= f) s =
      match after x s with
      | (.ok a, s') => after (f a) s'
      | (.error e, s') => (.error e, s') := by
  unfold after
  rw [ExceptT.run_bind, StateT.run_bind]
  show (let p := x.run.run s; _) = _
  cases x.run.run s with
  | mk r s' => cases r <;> rfl

theorem after_tellAll (ns : List Notice) (s : Memory) :
    ∃ ms, after (Job.tellAll (accessIf readable) j ns) s = (.ok (), told ms s) := by
  have hall : ∀ (ns : List Notice) (s : Memory),
      after (ns.forM fun n => (accessIf readable).tell n) s = (.ok (), told ns s) := by
    intro ns
    induction ns with
    | nil =>
      intro s
      rw [told_nil]
      rfl
    | cons n ns ih =>
      intro s
      have hone : after ((accessIf readable).tell n) s = (.ok (), told [n] s) := rfl
      show after (liftM ((accessIf readable).tell n) >>= fun _ => ns.forM _) s = _
      rw [after_bind, hone]
      exact (ih _).trans (by rw [told_told, List.singleton_append])
  unfold Job.tellAll
  split
  · exact ⟨[], by rw [told_nil]; rfl⟩
  · exact ⟨ns, hall ns s⟩

/-- Loading a configuration tells notices and touches nothing else. -/
theorem after_load (s : Memory) :
    ∃ ms, after (Job.load (accessIf readable) j) s = (j.loaded (s.files j.config), told ms s) := by
  have hread : after ((accessIf readable).readFile j.config) s = (.ok (s.files j.config), s) := rfl
  have hlift : ∀ {γ : Type} (y : Except JobFault γ) (s : Memory), after (liftM y) s = (y, s) :=
    fun y _ => by cases y <;> rfl
  unfold Job.load Job.loaded
  rw [after_bind, hread]
  dsimp only
  rw [after_bind, hlift]
  cases Job.configOf j.config (s.files j.config) with
  | error e => exact ⟨[], by rw [told_nil]; rfl⟩
  | ok c =>
    obtain ⟨ms, hms⟩ := after_tellAll j readable c.keyNotices s
    refine ⟨ms, ?_⟩
    dsimp only
    rw [after_bind, hms]
    dsimp only
    rw [after_bind, hlift]
    show _ = (Job.check j.config c >>= fun _ => pure c, told ms s)
    cases Job.check j.config c <;> rfl

/-- Reading a page touches nothing. -/
theorem after_readPage (s : Memory) :
    after (Job.readPage (accessIf readable) j) s = (j.pageText (pageOf j readable s), s) := by
  unfold Job.readPage Job.pageText pageOf
  cases hinput : j.input with
  | none => cases readable <;> rfl
  | some f =>
    have hread : after ((accessIf readable).readFile f) s = (.ok (s.files f), s) := rfl
    show after (liftM ((accessIf readable).readFile f) >>= _) s = _
    rw [after_bind, hread]
    dsimp only
    cases s.files f <;> rfl

/-- How a job with a file to write ends: the text that it makes is written, if it makes one. -/
def finish (out : String) (made : Except JobFault Text) (s : Memory) :
    Except JobFault Unit × Memory :=
  match made with
  | .ok t => (.ok (), s.put out t)
  | .error e => (.error e, s)

/-- **One run of a job.** It tells notices all along, and whatever it writes it writes at the end. -/
theorem after_run {out : String} (hout : j.output = some out) (s : Memory) :
    ∃ ms, after (j.run (accessIf readable)) s =
      finish out (j.made (s.files j.config) (pageOf j readable s)) (told ms s) := by
  obtain ⟨ms, hms⟩ := after_load j readable s
  unfold Job.run
  rw [after_bind, hms]
  cases hc : j.loaded (s.files j.config) with
  | error e =>
    refine ⟨ms, ?_⟩
    rw [Job.made, hc]
    rfl
  | ok c =>
    have hmade : j.made (s.files j.config) (pageOf j readable s) =
        j.pageText (pageOf j readable s) >>= Job.produce c j.options := by
      rw [Job.made, hc]
      rfl
    have hpage : pageOf j readable (told ms s) = pageOf j readable s := rfl
    dsimp only
    rw [hmade, after_bind, after_readPage, hpage]
    cases j.pageText (pageOf j readable s) with
    | error e => exact ⟨ms, rfl⟩
    | ok t =>
      obtain ⟨ks, hks⟩ := after_tellAll j readable (c.runNotices j.options t) (told ms s)
      refine ⟨ms ++ ks, ?_⟩
      dsimp only
      rw [after_bind, hks, told_told]
      show _ = finish out (Job.produce c j.options t) _
      cases Job.produce c j.options t with
      | error e => rfl
      | ok u =>
        show after (Job.write (accessIf readable) j u) _ = _
        unfold Job.write
        rw [hout]
        rfl

/-! ### All or nothing -/

/-- A job can use the configurations that the library accepts. -/
theorem toOption_loaded (j : Job) (config : Option (List UInt8)) :
    (j.loaded config).toOption = accepted? config := by
  cases config with
  | none => rfl
  | some bs =>
    have hconfig : (Job.configOf j.config (some bs)).toOption = configIn? bs := by
      unfold Job.configOf configIn?
      dsimp only
      split
      · cases Config.ofText (Utf8.decode bs) <;> rfl
      · rfl
    show _ = (configIn? bs >>= fun c => c.check.toOption >>= fun _ => pure c)
    unfold Job.loaded
    rw [← hconfig]
    cases Job.configOf j.config (some bs) with
    | error e => rfl
    | ok c =>
      show (Job.check j.config c >>= fun _ => pure c).toOption = c.check.toOption >>= fun _ => pure c
      unfold Job.check
      cases c.check <;> rfl

/-- What a job makes is what the library makes, and a line feed. -/
theorem toOption_made (j : Job) (config page : Option (List UInt8)) :
    (j.made config page).toOption = (answer? j.options config page).map (· ++ ['\n']) := by
  have hload := toOption_loaded j config
  unfold Job.made answer?
  rw [← hload]
  cases j.loaded config with
  | error e => rfl
  | ok c =>
    cases page with
    | none => rfl
    | some bs =>
      show (Job.produce c j.options (repairBytes bs)).toOption =
        (c.canonicalizeBytes j.options bs).toOption.map (· ++ ['\n'])
      unfold Job.produce Config.canonicalizeBytes
      cases c.canonicalize j.options (repairBytes bs) <;> rfl

/-- **All or nothing.** A job with a file to write is done on files in memory, whatever they hold and
whether or not standard input can be read. If the library makes a text of its configuration, its page
and its options, the job succeeds: the file to write then holds that text and a line feed, and all
others hold what they did. Otherwise the job fails, and all files hold what they did. -/
theorem run_written (j : Job) (out : String) (readable : Bool) (s : Memory) :
    let r := after ({ j with output := some out }.run (accessIf readable)) s
    let answer := answer? j.options (s.files j.config) (pageOf j readable s)
    (∀ t, answer = some t → r.1 = .ok () ∧ r.2.files out = some (encode (t ++ ['\n'])) ∧
      ∀ f, f ≠ out → r.2.files f = s.files f) ∧
    (answer = none → (∃ e, r.1 = .error e) ∧ r.2.files = s.files) ∧
    r.2.output = s.output ∧
    (readable = true → run { j with output := some out } s = r) := by
  obtain ⟨ms, hrun⟩ := after_run { j with output := some out } readable rfl s
  have hmade := toOption_made { j with output := some out } (s.files j.config) (pageOf j readable s)
  have hpage : pageOf { j with output := some out } readable s = pageOf j readable s := rfl
  have hsame : readable = true → run { j with output := some out } s =
      after ({ j with output := some out }.run (accessIf readable)) s := by
    rintro rfl
    rfl
  dsimp only at hmade ⊢
  rw [hrun, hpage] at hsame ⊢
  generalize Job.made _ (s.files j.config) (pageOf j readable s) = made at hmade hsame ⊢
  refine ⟨fun t ht => ?_, fun hnone => ?_, ?_, hsame⟩
  · rw [ht] at hmade
    obtain rfl := eq_ok_of_toOption hmade
    refine ⟨rfl, by simp [finish, put], fun f hf => by simp [finish, put, hf, told]⟩
  · rw [hnone] at hmade
    cases made with
    | ok t => cases hmade
    | error e => exact ⟨⟨e, rfl⟩, rfl⟩
  · cases made <;> rfl

end Memory

end HtmlCanon.Command
