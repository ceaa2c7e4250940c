import AsyncReports.Proofs.Job.Addressing
import AsyncReports.Proofs.ReportJob.Isolation
import AsyncReports.Proofs.Tallying

set_option autoImplicit false

/-!
# Polling together and polling one by one

A remote side that holds to one document about each run tells the same to a group, which asks in chunks and asks
again where an answer fails, as to each member that asks for itself. A member is told its document once, or it waits
for it in the batch; and to be told again changes nothing. So it does not matter how the members are grouped into
round trips, and how many of these go wrong.
-/

namespace AsyncReports

variable {σ τ : Type} {service : Service σ} {documents : String → Json}

namespace Progress

/-- Only whether there are times, not which. -/
def untimed (p : Progress) : Progress :=
  { p with startedAt := p.startedAt.map fun _ => 0, finishedAt := p.finishedAt.map fun _ => 0 }

theorem observe_untimed (p : Progress) (now now' : Nat) (run : Run) :
    (p.observe now run).untimed = (p.observe now' run).untimed := by
  unfold observe
  cases p.finishedAt with
  | some time => rfl
  | none =>
    cases p.status.step? (.observed run.status) with
    | none => rfl
    | some next => cases next <;> rfl

theorem step?_again (status seen : Status) :
    (((status.step? (.observed seen)).getD status).step? (.observed seen)).getD
      ((status.step? (.observed seen)).getD status) = (status.step? (.observed seen)).getD status := by
  cases status <;> cases seen <;> rfl

/-- A run that is seen again tells nothing new. -/
theorem observe_again (p : Progress) (now now' : Nat) (run : Run) :
    (p.observe now run).observe now' run = p.observe now run := by
  cases finished : (p.observe now run).finishedAt with
  | some time => exact observe_of_finished (by rw [finished]; rfl) now' run
  | none =>
    have going : p.finishedAt = none := by
      cases ended : p.finishedAt with
      | none => rfl
      | some time =>
        rw [observe_of_finished (by rw [ended]; rfl), ended] at finished
        cases finished
    obtain ⟨known, status⟩ := observe_open going now run
    rw [observe_eq_iff finished]
    refine ⟨known, ?_⟩
    rw [following, status]
    exact step?_again p.status run.status

end Progress

namespace ReportJob

variable {leaf : ReportJob} {run : Run}

def untimed (job : ReportJob) : ReportJob := { job with progress := job.progress.untimed }

/-- The job once it has been told about its run. -/
def told (documents : String → Json) (now : Nat) (job : ReportJob) : ReportJob :=
  match job.progress.run with
  | none => job
  | some run => job.heard now (.ok (documents run.id))

theorem told_eq_heard (known : leaf.progress.run = some run) (now : Nat) :
    leaf.told documents now = leaf.heard now (.ok (documents run.id)) := by
  rw [told, known]

theorem told_of_completed (ended : leaf.completed) (now : Nat) : leaf.told documents now = leaf := by
  unfold told
  cases leaf.progress.run with
  | none => rfl
  | some run => exact heard_of_completed ended now _

theorem told_of_undecoded {cause : DecodeError} (known : leaf.progress.run = some run)
    (unread : Run.decode (documents run.id) = .error cause) (now : Nat) : leaf.told documents now = leaf := by
  rw [told_eq_heard known, heard, reading, unread]
  rfl

theorem heard_untimed (leaf : ReportJob) (answer : Answer Json) (now now' : Nat) :
    (leaf.heard now answer).untimed = (leaf.heard now' answer).untimed := by
  unfold heard
  cases reading answer with
  | none => rfl
  | some run =>
    dsimp only [untimed]
    rw [Progress.observe_untimed leaf.progress now now' run]

theorem told_untimed (leaf : ReportJob) (now now' : Nat) :
    (leaf.told documents now).untimed = (leaf.told documents now').untimed := by
  unfold told
  cases leaf.progress.run with
  | none => rfl
  | some run => exact heard_untimed leaf _ now now'

theorem heard_again (leaf : ReportJob) (answer : Answer Json) (now now' : Nat) :
    (leaf.heard now answer).heard now' answer = leaf.heard now answer := by
  unfold heard
  cases reading answer with
  | none => rfl
  | some run =>
    dsimp only
    rw [Progress.observe_again]

end ReportJob

/-! ## The two ways of asking -/

namespace Service

/-- From this state on, every check is answered in the end, always with the document about its run. -/
structure Steady (service : Service σ) (documents : String → Json) (s : σ) : Prop where
  answers : service.Answers s
  holds : ∀ s', service.Leads s s' → ∀ (ids : List String) (k : Nat) id document, ids[k]? = some id →
    (service.statuses ids s').1[k]? = some (.ok document) → document = documents id

/-- From this state on, every reading of a single status succeeds, unless the document about the run cannot be
decoded. -/
def Prompt (service : Service σ) (documents : String → Json) (s : σ) : Prop :=
  ∀ s', service.Leads s s' → ∀ id, (service.status id s').1 = (Run.decode (documents id)).mapError .decode

theorem Steady.leads {s s' : σ} (h : service.Steady documents s) (leads : service.Leads s s') :
    service.Steady documents s' where
  answers := h.answers.leads leads
  holds t later := h.holds t (leads.trans later)

theorem Prompt.leads {s s' : σ} (h : service.Prompt documents s) (leads : service.Leads s s') :
    service.Prompt documents s' :=
  fun t later => h t (leads.trans later)

end Service

namespace ReportJob

/-- A job that has not completed asks for itself. -/
def updateOpen (service : Service σ) (job : ReportJob) : Act σ (Outcome ReportJob) :=
  if job.completed then pure (job, .ok ()) else job.update service

end ReportJob

namespace Job

open ReportJob

/-- In the middle of a poll, each member has been told about its run, or it is as before and waits in the batch. -/
structure Midway (documents : String → Json) (leaves : List ReportJob) (jobs : List Job) (batch : Batch Slot) :
    Prop where
  length_eq : jobs.length = leaves.length
  asks : ∀ check ∈ batch, ∃ leaf run, leaves[check.owner.position]? = some leaf ∧
    leaf.progress.run = some run ∧ run.id = check.run
  members : ∀ (k : Nat) leaf, leaves[k]? = some leaf →
    (∃ now, jobs[k]? = some (.report (leaf.told documents now))) ∨
      (jobs[k]? = some (.report leaf) ∧ ∃ check ∈ batch, check.owner.position = k)

variable {leaves : List ReportJob} {jobs : List Job} {batch : Batch Slot}

theorem Midway.nil : Midway documents [] [] [] := ⟨rfl, by simp, by simp⟩

theorem Midway.of_mem {batch' : Batch Slot} (midway : Midway documents leaves jobs batch)
    (same : ∀ check, check ∈ batch ↔ check ∈ batch') : Midway documents leaves jobs batch' where
  length_eq := midway.length_eq
  asks check mem := midway.asks check ((same check).2 mem)
  members k leaf here := by
    refine (midway.members k leaf here).imp id ?_
    rintro ⟨waits, check, mem, place⟩
    exact ⟨waits, check, (same check).1 mem, place⟩

/-- A document reaches the member that asked for it. -/
theorem Midway.answered {check : Check Slot} (midway : Midway documents leaves jobs (check :: batch)) (now : Nat) :
    ∃ leaf, jobs[check.owner.position]? = some (.report leaf) ∧
      Midway documents leaves
        (jobs.set check.owner.position (.report (leaf.heard now (.ok (documents check.run))))) batch := by
  obtain ⟨first, run, here, known, same⟩ := midway.asks check List.mem_cons_self
  have heard : ∃ leaf, jobs[check.owner.position]? = some (.report leaf) ∧
      ∃ later, leaf.heard now (.ok (documents check.run)) = first.told documents later := by
    rcases midway.members _ first here with ⟨earlier, told⟩ | ⟨waits, -⟩
    · refine ⟨_, told, earlier, ?_⟩
      rw [told_eq_heard known, same, heard_again]
    · refine ⟨_, waits, now, ?_⟩
      rw [told_eq_heard known, same]
  obtain ⟨leaf, there, later, told⟩ := heard
  refine ⟨leaf, there, ?_, fun c mem => midway.asks c (List.mem_cons_of_mem _ mem), fun k other place => ?_⟩
  · rw [List.length_set]
    exact midway.length_eq
  · by_cases this : check.owner.position = k
    · subst this
      rw [here] at place
      cases place
      refine .inl ⟨later, ?_⟩
      rw [List.getElem?_set_self (List.getElem?_eq_some_iff.1 there).1, told]
    · rw [List.getElem?_set_ne this]
      refine (midway.members k other place).imp id ?_
      rintro ⟨waits, c, mem, at_⟩
      refine ⟨waits, c, ?_, at_⟩
      rcases List.mem_cons.1 mem with rfl | mem
      · exact absurd at_ this
      · exact mem

/-- The documents that come back are those about the runs that were asked for. -/
def Holds (documents : String → Json) (answered : List (Check Slot × Answer Json)) : Prop :=
  ∀ check document, (check, .ok document) ∈ answered → document = documents check.run

/-- One answer either reaches its member, or leaves the check for another round trip. -/
theorem Midway.receive {check : Check Slot} {answer : Answer Json}
    (midway : Midway documents leaves jobs (check :: batch))
    (holds : ∀ document, answer = .ok document → document = documents check.run) (w : World σ) :
    Act.Ensures (receiveAt jobs check.owner answer) w fun jobs' _ =>
      Midway documents leaves jobs' (Batch.retries [(check, answer)] ++ batch) := by
  obtain ⟨leaf, here, heard⟩ := midway.answered w.clock
  refine (receiveAt_eq_set check.owner answer here w).mono ?_
  rintro _ _ rfl
  cases answer with
  | error cause =>
    obtain ⟨inside, same⟩ := List.getElem?_eq_some_iff.1 here
    rw [heard_error, ← same, List.set_getElem_self]
    exact midway
  | ok document =>
    rw [holds document rfl]
    exact heard

theorem deliver_midway {answered : List (Check Slot × Answer Json)} (holds : Holds documents answered)
    {left : Batch Slot} (midway : Midway documents leaves jobs (answered.map Prod.fst ++ left)) (w : World σ) :
    Act.Ensures (Batch.deliver receiveAt jobs answered) w fun jobs' _ =>
      Midway documents leaves jobs' (Batch.retries answered ++ left) := by
  induction answered generalizing jobs left w with
  | nil => exact Act.ensures_pure.2 midway
  | cons head rest ih =>
    obtain ⟨check, answer⟩ := head
    have later : Holds documents rest := fun check document mem => holds check document (List.mem_cons_of_mem _ mem)
    have next : Midway documents leaves jobs (check :: (rest.map Prod.fst ++ left)) := midway
    have first : ∀ document, answer = .ok document → document = documents check.run := by
      rintro document rfl
      exact holds check document List.mem_cons_self
    rw [Batch.deliver, Act.ensures_bind]
    refine (next.receive first w).mono fun jobs₁ w₁ received => ?_
    have onward : Midway documents leaves jobs₁ (rest.map Prod.fst ++ (Batch.retries [(check, answer)] ++ left)) := by
      apply received.of_mem
      intro c
      simp only [List.mem_append]
      tauto
    refine (ih later onward w₁).mono fun jobs₂ _ told => ?_
    apply told.of_mem
    intro c
    rw [Batch.retries_cons (check, answer) rest]
    simp only [List.mem_append]
    tauto

theorem execute_midway {w : World σ} (steady : service.Steady documents w.remote)
    (midway : Midway documents leaves jobs batch) :
    Act.Ensures (Batch.execute service receiveAt jobs batch) w fun out w' =>
      service.Leads w.remote w'.remote ∧ Midway documents leaves out.1 out.2 := by
  have only : Act.Only service AnyCall (Batch.execute service receiveAt jobs batch) :=
    Batch.execute_only receiveAt_only jobs batch trivial
  have leads := (only w).mono fun _ w' asks => asks.leads
  refine leads.and ?_
  cases batch with
  | nil => exact Act.ensures_pure.2 midway
  | cons check rest =>
    have holds : Holds documents
        (Batch.pair (check :: rest) (service.statuses (Batch.runs (check :: rest)) w.remote).1) := by
      intro c document mem
      obtain ⟨k, asked, answer⟩ := document_of_pair mem
      exact steady.holds w.remote (.refl _) _ k c.run document asked answer
    have whole : Midway documents leaves jobs ((Batch.pair (check :: rest)
        (service.statuses (Batch.runs (check :: rest)) w.remote).1).map Prod.fst ++ []) := by
      rw [Batch.pair_checks, List.append_nil]
      exact midway
    simp only [Batch.execute, Service.statusesOf, Act.ensures_bind, Act.ensures_call, Act.ensures_log, Act.ensures_pure]
    refine (deliver_midway holds whole _).mono fun jobs' _ told => ?_
    rw [List.append_nil] at told
    exact told

/-- Once a batch is drained, nobody waits any more. -/
theorem settle_midway (rounds : Nat) {w : World σ} (steady : service.Steady documents w.remote)
    (midway : Midway documents leaves jobs batch) :
    Act.Ensures (settle service rounds jobs batch) w fun jobs' w' =>
      service.Leads w.remote w'.remote ∧ Midway documents leaves jobs' [] := by
  unfold settle
  induction rounds generalizing jobs batch w with
  | zero =>
    cases batch with
    | nil => exact Act.ensures_pure.2 ⟨.refl _, midway⟩
    | cons check rest => exact Act.ensures_unfinished
  | succ rounds ih =>
    cases batch with
    | nil => exact Act.ensures_pure.2 ⟨.refl _, midway⟩
    | cons check rest =>
      rw [Batch.drain, Act.ensures_bind]
      refine (execute_midway steady midway).mono ?_
      rintro out w₁ ⟨leads, left⟩
      refine (ih (steady.leads leads) left).mono ?_
      rintro jobs' w' ⟨leads', settled⟩
      exact ⟨leads.trans leads', settled⟩

/-! ## Members in chunks -/

/-- The next member joins: it is finished, or its check is queued. -/
theorem Midway.push {leaf : ReportJob} {checks : Batch Slot} (midway : Midway documents leaves jobs batch)
    (joins : leaf.completed ∧ checks = [] ∨ ∃ run, leaf.progress.run = some run ∧
      ∃ label, checks = [⟨run.id, ⟨jobs.length, label⟩⟩]) :
    Midway documents (leaves ++ [leaf]) (jobs ++ [.report leaf]) (batch ++ checks) where
  length_eq := by simp [midway.length_eq]
  asks check mem := by
    rcases List.mem_append.1 mem with mem | mem
    · obtain ⟨old, run, here, known⟩ := midway.asks check mem
      refine ⟨old, run, ?_, known⟩
      rw [List.getElem?_append_left (List.getElem?_eq_some_iff.1 here).1]
      exact here
    · rcases joins with ⟨-, rfl⟩ | ⟨run, known, label, rfl⟩
      · cases mem
      · rw [List.mem_singleton.1 mem]
        refine ⟨leaf, run, ?_, known, rfl⟩
        rw [midway.length_eq, List.getElem?_concat_length]
  members k other here := by
    by_cases old : k < leaves.length
    · rw [List.getElem?_append_left old] at here
      rw [List.getElem?_append_left (by rw [midway.length_eq]; exact old)]
      refine (midway.members k other here).imp id ?_
      rintro ⟨waits, check, mem, place⟩
      exact ⟨waits, check, List.mem_append_left checks mem, place⟩
    · obtain ⟨rfl, rfl⟩ : k = leaves.length ∧ leaf = other := by
        rw [List.getElem?_append_right (by omega), List.getElem?_singleton] at here
        split at here
        · exact ⟨by omega, by simpa using here⟩
        · cases here
      rw [← midway.length_eq, List.getElem?_concat_length]
      rcases joins with ⟨ended, -⟩ | ⟨run, known, label, rfl⟩
      · refine .inl ⟨0, ?_⟩
        rw [told_of_completed ended]
      · exact .inr ⟨rfl, _, List.mem_append_right batch List.mem_cons_self, rfl⟩

theorem poll_report {leaf : ReportJob} (started : leaf.progress.run.isSome) (going : leaf.completed = false)
    (rounds position : Nat) (w : World σ) :
    Act.Ensures (poll service rounds position (.report leaf)) w fun out w' => w'.remote = w.remote ∧
      ∃ run, leaf.progress.run = some run ∧
        out = (.report leaf, [⟨run.id, ⟨position, leaf.label⟩⟩], .ok ()) := by
  obtain ⟨run, known⟩ := Option.isSome_iff_exists.1 started
  have unfinished : leaf.progress.finishedAt = none := by simpa [ReportJob.completed] using going
  simp [poll, ReportJob.check, pending, known, unfinished]

theorem pollMembers_midway (rounds size : Nat) (rest : List ReportJob) :
    ∀ {leaves : List ReportJob} {jobs : List Job} {batch : Batch Slot} (taken : Nat) {w : World σ},
      service.Steady documents w.remote → (∀ leaf ∈ rest, leaf.progress.run.isSome) →
      Midway documents leaves jobs batch →
      Act.Ensures (pollMembers service rounds size jobs batch taken (rest.map .report)) w fun out _ =>
        out.2 = .ok () ∧ Midway documents (leaves ++ rest) out.1 [] := by
  induction rest with
  | nil =>
    intro leaves jobs batch taken w steady _ midway
    simp only [List.map_nil, pollMembers, Act.ensures_bind, Act.ensures_pure, List.append_nil]
    exact (settle_midway rounds steady midway).mono fun _ _ settled => ⟨trivial, settled.2⟩
  | cons leaf rest ih =>
    intro leaves jobs batch taken w steady started midway
    rw [List.forall_mem_cons] at started
    obtain ⟨first, others⟩ := started
    rw [List.append_cons, List.map_cons, pollMembers]
    split
    · rename_i ended
      have pushed := midway.push (.inl ⟨ended, rfl⟩)
      rw [List.append_nil] at pushed
      exact ih taken steady others pushed
    · rename_i going
      rw [Act.ensures_bind]
      refine (poll_report first (by simpa [completed] using going) rounds jobs.length w).mono ?_
      rintro _ w₁ ⟨quiet, run, known, rfl⟩
      rw [← quiet] at steady
      have pushed := midway.push (.inr ⟨run, known, leaf.label, rfl⟩)
      dsimp only
      split
      · rw [Act.ensures_bind]
        refine (settle_midway rounds steady pushed).mono ?_
        rintro jobs' w₂ ⟨leads, settled⟩
        exact ih 0 (steady.leads leads) others settled
      · exact ih (taken + 1) steady others pushed

theorem Midway.told (midway : Midway documents leaves jobs []) : ∃ after : List ReportJob, jobs = after.map .report ∧
    List.Forall₂ (fun leaf leaf' => ∃ now, leaf' = leaf.told documents now) leaves after := by
  refine exists_leaves midway.length_eq fun k leaf here => ?_
  rcases midway.members k leaf here with ⟨now, told⟩ | ⟨-, check, mem, -⟩
  · exact ⟨_, told, now, rfl⟩
  · cases mem

end Job

namespace ReportJob

/-- What a member and the way it was told have to do with each other. -/
inductive Verdict (documents : String → Json) (leaf : ReportJob) : Outcome ReportJob → Prop
  | finished (ended : leaf.completed) : Verdict documents leaf (leaf, .ok ())
  | decoded {run seen : Run} (now : Nat) (going : leaf.completed = false) (known : leaf.progress.run = some run)
    (read : Run.decode (documents run.id) = .ok seen) : Verdict documents leaf (leaf.told documents now, .ok ())
  | undecoded {run : Run} {cause : DecodeError} (going : leaf.completed = false) (known : leaf.progress.run = some run)
    (unread : Run.decode (documents run.id) = .error cause) :
    Verdict documents leaf (leaf, .error (.service (.decode cause)))

theorem Verdict.told {leaf : ReportJob} {out : Outcome ReportJob} (verdict : Verdict documents leaf out) :
    ∃ now, out.1 = leaf.told documents now := by
  cases verdict with
  | finished ended => exact ⟨0, (told_of_completed ended 0).symm⟩
  | decoded now => exact ⟨now, rfl⟩
  | undecoded _ known unread => exact ⟨0, (told_of_undecoded known unread 0).symm⟩

/-- What a member learns that asks for itself. -/
theorem update_verdict {leaf : ReportJob} (started : leaf.progress.run.isSome) (going : leaf.completed = false)
    {w : World σ} (prompt : service.Prompt documents w.remote) :
    Act.Ensures (leaf.update service) w fun out _ => Verdict documents leaf out := by
  refine (update_ensures service leaf w).mono ?_
  rintro out _ (⟨unknown, -⟩ | ⟨-, ended, -⟩ | ⟨run, known, -, answered⟩)
  · rw [unknown] at started
    cases started
  · rw [going] at ended
    cases ended
  · rw [prompt w.remote (.refl _) run.id] at answered
    cases decoded : Run.decode (documents run.id) with
    | error cause =>
      rw [decoded] at answered
      obtain rfl : out = (leaf, .error (.service (.decode cause))) := answered
      exact .undecoded going known decoded
    | ok seen =>
      have told : leaf.told documents w.clock = { leaf with progress := leaf.progress.observe w.clock seen } := by
        rw [told_eq_heard known, heard, reading, decoded]
        rfl
      rw [decoded] at answered
      obtain rfl : out = (leaf.told documents w.clock, .ok ()) := by
        rw [told]
        exact answered
      exact .decoded w.clock going known decoded

theorem updateOpen_verdict {leaf : ReportJob} (started : leaf.progress.run.isSome) {w : World σ}
    (prompt : service.Prompt documents w.remote) :
    ∃ out w', leaf.updateOpen service w = some (out, w') ∧ service.Leads w.remote w'.remote ∧
      Verdict documents leaf out := by
  unfold updateOpen
  split
  · rename_i ended
    exact ⟨_, w, rfl, .refl _, .finished ended⟩
  · rename_i going
    obtain ⟨out, w', ran⟩ := update_total service leaf w
    have leads := (update_only (p := Job.AnyCall) (fun _ => trivial) leaf).leads ran
    exact ⟨out, w', ran, leads, update_verdict started (by simpa using going) prompt out w' ran⟩

theorem updateOpen_verdicts {leaves : List ReportJob} (started : ∀ leaf ∈ leaves, leaf.progress.run.isSome)
    {w : World σ} (prompt : service.Prompt documents w.remote) :
    ∃ outs w', leaves.mapM (updateOpen service) w = some (outs, w') ∧
      List.Forall₂ (Verdict documents) leaves outs := by
  induction leaves generalizing w with
  | nil => exact ⟨[], w, rfl, .nil⟩
  | cons leaf rest ih =>
    rw [List.forall_mem_cons] at started
    obtain ⟨out, w₁, first, leads, verdict⟩ := updateOpen_verdict started.1 prompt
    obtain ⟨outs, w', later, verdicts⟩ := ih started.2 (prompt.leads leads)
    refine ⟨out :: outs, w', ?_, .cons verdict verdicts⟩
    simp only [List.mapM_cons, Act.bind_eq_some, Act.pure_eq_some]
    exact ⟨out, w₁, first, outs, w', later, rfl, rfl⟩

/-- A member that was polled with others, and the same member if it asked for itself. -/
structure Agrees (documents : String → Json) (leaf polled : ReportJob) (asked : Outcome ReportJob) : Prop where
  same : polled.untimed = asked.1.untimed
  /-- What the member has become depends on the document alone. -/
  told : ∃ now, polled = leaf.told documents now
  verdict : Verdict documents leaf asked
  unread : ∀ run cause, leaf.progress.run = some run → Run.decode (documents run.id) = .error cause → polled = leaf

theorem Verdict.agrees {leaf polled : ReportJob} {asked : Outcome ReportJob} (verdict : Verdict documents leaf asked)
    (told : ∃ now, polled = leaf.told documents now) : Agrees documents leaf polled asked := by
  refine ⟨?_, told, verdict, ?_⟩
  · obtain ⟨now, rfl⟩ := told
    obtain ⟨now', alone⟩ := verdict.told
    rw [alone]
    exact told_untimed leaf now now'
  · intro run cause known unread
    obtain ⟨now, rfl⟩ := told
    exact told_of_undecoded known unread now

end ReportJob

namespace Job

/-- A group whose members are started is polled to the end, for any size of its round trips and any number of answers
that fail on the way. Each member then is as if it had asked for itself, a remote side that never fails and holds to
the same documents: all is the same but the times. A document that cannot be decoded leaves the member as it is, and
only the member that asks for itself is told so. -/
theorem polling_agrees {service : Service σ} {prompt : Service τ} {w : World σ} {v : World τ}
    (steady : service.Steady documents w.remote) (prompts : prompt.Prompt documents v.remote) (g : Group)
    {leaves : List ReportJob} (started : ∀ leaf ∈ leaves, leaf.progress.run.isSome) :
    ∃ (polled : List ReportJob) (asked : List (Outcome ReportJob)) (w' : World σ) (v' : World τ) (enough : Nat),
      (∀ rounds, enough ≤ rounds →
        update service rounds (.group g (leaves.map .report)) w = some ((.group g (polled.map .report), .ok ()), w') ∧
        ∀ position, poll service rounds position (.group g (leaves.map .report)) w =
          some ((.group g (polled.map .report), [], .ok ()), w')) ∧
      leaves.mapM (ReportJob.updateOpen prompt) v = some (asked, v') ∧
      polled.length = leaves.length ∧ asked.length = leaves.length ∧
      ∀ (k : Nat) leaf alone together, leaves[k]? = some leaf → polled[k]? = some together → asked[k]? = some alone →
        ReportJob.Agrees documents leaf together alone := by
  obtain ⟨⟨members, result⟩, w', enough, ends⟩ :=
    pollMembers_ends (max g.settings.batch.maxCalls 1) [] [] 0 (leaves.map .report) steady.answers
  obtain ⟨fine, midway⟩ := pollMembers_midway enough _ leaves 0 steady started .nil _ _ (ends enough (Nat.le_refl _))
  obtain ⟨polled, same, told⟩ := midway.told
  obtain ⟨asked, v', ran, verdicts⟩ := ReportJob.updateOpen_verdicts started prompts
  have fine : result = .ok () := fine
  have same : members = polled.map .report := same
  subst fine same
  have polls : ∀ rounds, enough ≤ rounds → ∀ position, poll service rounds position (.group g (leaves.map .report)) w =
      some ((.group g (polled.map .report), [], .ok ()), w') := by
    intro rounds le position
    simp only [poll, Act.bind_eq_some, Act.pure_eq_some]
    exact ⟨_, w', ends rounds le, rfl, rfl⟩
  refine ⟨polled, asked, w', v', enough, fun rounds le => ⟨?_, polls rounds le⟩, ran, told.length_eq.symm,
    verdicts.length_eq.symm, fun k leaf alone together here polled' asked' => ?_⟩
  · simp only [update, Act.bind_eq_some, Act.pure_eq_some]
    exact ⟨_, w', polls rounds le 0, rfl, rfl⟩
  · obtain ⟨_, place, told⟩ := (forall₂_getElem? told k).1 leaf here
    obtain ⟨_, place', verdict⟩ := (forall₂_getElem? verdicts k).1 leaf here
    rw [polled'] at place
    rw [asked'] at place'
    cases place
    cases place'
    exact verdict.agrees told

/-! ## A group whose first round trip is lost -/

/-- A remote side that answers readings of single runs, at once, from its documents. -/
def forthright (documents : String → Json) : Service Unit where
  submit _ _ _ := (.error (.request 503 "busy"), ())
  query _ _ _ := (.error (.request 503 "busy"), ())
  status run _ := ((Run.decode (documents run)).mapError .decode, ())
  statuses _ _ := ([], ())
  rows _ _ _ := ([], ())
  throttle _ := (.ok {}, ())

/-- All runs have completed. -/
def completedAll (run : String) : Json := Script.statusDocument run Status.completed.text

/-- The first round trip goes unanswered. -/
def firstLost (trip : Nat) : Option Status := if trip = 0 then none else some .completed

theorem firstLost_steady : (tallying (fun _ => 0) firstLost).Steady completedAll {} where
  answers t _ batch i := by
    have ended : ∀ k, 1 ≤ k → ∃ seen, firstLost k = some seen ∧ seen.isTerminal := by
      intro k late
      exact ⟨.completed, if_neg (by omega), rfl⟩
    exact Tally.answers ended batch t i
  holds t _ ids k id document place answer := by
    obtain ⟨seen, known, rfl⟩ := Tally.status_of_answer place answer
    unfold firstLost at known
    split at known
    · cases known
    · cases known
      rfl

/-- Two members that have their runs. -/
def startedPair : List ReportJob :=
  [ReportJob.sample.launched { id := "run-1", status := .started } 5,
    ReportJob.sample.launched { id := "run-2", status := .running } 7]

/-- A group that polls its members one by one, for want of a limit. -/
def narrowGroup : Group := { interval := ReportJob.sample.interval, settings := { batch := { maxCalls := 0 } } }

theorem polling_agrees_narrowGroup : (tallying (fun _ => 0) firstLost).Steady completedAll {} ∧
    (forthright completedAll).Prompt completedAll () ∧ (∀ leaf ∈ startedPair, leaf.progress.run.isSome) ∧
    ∃ (polled : List ReportJob) (asked : List (Outcome ReportJob)) (w' : World Tally) (v' : World Unit) (rounds : Nat),
      update (tallying (fun _ => 0) firstLost) rounds (.group narrowGroup (startedPair.map .report)) { remote := {} } =
        some ((.group narrowGroup (polled.map .report), .ok ()), w') ∧
      startedPair.mapM (ReportJob.updateOpen (forthright completedAll)) { remote := () } = some (asked, v') ∧
      ∃ together alone, polled[1]? = some together ∧ asked[1]? = some alone ∧
        together.untimed = alone.1.untimed ∧ together.progress.status = .completed := by
  have prompt : (forthright completedAll).Prompt completedAll () := fun _ _ _ => rfl
  have started : ∀ leaf ∈ startedPair, leaf.progress.run.isSome := by simp [startedPair, ReportJob.launched]
  obtain ⟨polled, asked, w', v', rounds, polls, alone, many, many', agrees⟩ :=
    polling_agrees (w := ({ remote := {} } : World Tally)) (v := ({ remote := () } : World Unit)) firstLost_steady
      prompt narrowGroup started
  obtain ⟨polls, -⟩ := polls rounds (Nat.le_refl _)
  refine ⟨firstLost_steady, prompt, started, polled, asked, w', v', rounds, polls, alone, ?_⟩
  have second : 1 < polled.length := by simp [many, startedPair]
  have second' : 1 < asked.length := by simp [many', startedPair]
  have agreed := agrees 1 _ _ _ rfl (List.getElem?_eq_getElem second) (List.getElem?_eq_getElem second')
  refine ⟨_, _, List.getElem?_eq_getElem second, List.getElem?_eq_getElem second', agreed.same, ?_⟩
  obtain ⟨now, told⟩ := agreed.told
  rw [told]
  rfl

end Job

end AsyncReports
