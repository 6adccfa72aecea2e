import RecordGate.Proofs.Session.Invariant

/-!
# Courses of store calls

A course is what happened to a store, call by call, with the moment of each call. A scan is no call of a
course: to open it changes no record, and what its handler calls are calls of the course. So whatever can
be reached is reached by a course (`Reaches.leads`).
-/

namespace RecordGate
set_option autoImplicit false

/-- Whether a command was replied to, and succeeded. -/
def StoreAnswer.isOk : StoreAnswer → Bool
  | reply (some r) => r.isOk
  | _ => false

/-- A call at its moment. -/
structure Moment where
  before : Session
  call : StoreCall

namespace Moment

def answer (m : Moment) : StoreAnswer := (m.call.run m.before).1

def after (m : Moment) : Session := (m.call.run m.before).2

/-- A command that is no scan crashes and changes no record, or is replied to and has its effect. -/
theorem crashed_or_replied (s : Session) {command : Command} (noScan : command.isScan = false)
    (handle : RowHandler Session) {m : Moment} (made : m = ⟨s, .command command handle⟩) :
    m.answer = .reply none ∧ m.after.cluster.nodes = s.cluster.nodes ∨
      ∃ reply, m.answer = .reply (some reply) ∧
        s.cluster.Effect (s.now?.getD 0) command reply m.after.cluster := by
  subst made
  obtain ⟨obeyed, -⟩ := Session.obey_effect handle noScan s
  simp only [answer, after, StoreCall.run, Prod.map_fst, Prod.map_snd, id_eq]
  generalize (Session.direct.obey handle command).run s = ran at obeyed ⊢
  cases obeyed with
  | crashed nodes timeless => exact .inl ⟨rfl, nodes⟩
  | replied effect => exact .inr ⟨_, rfl, effect⟩

end Moment

namespace Cluster

theorem invariant_placed : Invariant Placed where
  congr placed nodes _ := placed.congr nodes
  effect {c d now command reply} effect _ placed := by
    cases effect with
    | kept nodes idle => exact placed.congr nodes
    | erased admits nodes => exact (placed.erase _).congr nodes
    | wrote next admits writes written nodes => exact (placed.put _ next).congr nodes
  corrupt {c} key placed := by
    rw [corrupt]
    cases c.find? key.id with
    | none => exact placed
    | some r => exact placed.put key.id _

end Cluster

namespace Session

/-- Calls lead from a session to `t`, in this order. -/
inductive Course : Session → List Moment → Session → Prop
  | done (t : Session) : Course t [] t
  | call {s t : Session} {later : List Moment} (call : StoreCall) (noScan : call.isScan = false)
      (course : Course (call.run s).2 later t) : Course s (⟨s, call⟩ :: later) t
  /-- What leaves the records alone. -/
  | aside {s t u : Session} {later : List Moment} (nodes : u.cluster.nodes = s.cluster.nodes)
      (course : Course u later t) : Course s later t

namespace Course

theorem of_nodes {s t : Session} (nodes : t.cluster.nodes = s.cluster.nodes) : Course s [] t :=
  .aside nodes (.done t)

theorem append {s t u : Session} {past later : List Moment} (first : Course s past t)
    (second : Course t later u) : Course s (past ++ later) u := by
  induction first with
  | done t => exact second
  | call call noScan course ih => exact .call call noScan (ih second)
  | aside nodes course ih => exact .aside nodes (ih second)

theorem noScan {s t : Session} {moments : List Moment} (course : Course s moments t) :
    ∀ m ∈ moments, m.call.isScan = false := by
  induction course with
  | done t =>
    intro m member
    cases member
  | call call noScan course ih => exact List.forall_mem_cons.2 ⟨noScan, ih⟩
  | aside nodes course ih => exact ih

/-- A course comes to each of its moments, and goes on from there. -/
theorem split {s t : Session} {past later : List Moment} {m : Moment}
    (course : Course s (past ++ m :: later) t) :
    Course s past m.before ∧ Course m.after later t := by
  generalize whole : past ++ m :: later = moments at course
  induction course generalizing past with
  | done t => cases past <;> cases whole
  | call call noScan course ih =>
    cases past with
    | nil =>
      cases whole
      exact ⟨.done _, course⟩
    | cons _ past =>
      cases whole
      obtain ⟨before, after⟩ := ih rfl
      exact ⟨.call call noScan before, after⟩
  | aside nodes course ih =>
    obtain ⟨before, after⟩ := ih whole
    exact ⟨.aside nodes before, after⟩

/-- An invariant that does not look at the limit. -/
theorem keeps {Kept : Cluster → Prop} (invariant : Cluster.Invariant Kept)
    (congr : ∀ {c d : Cluster}, Kept c → d.nodes = c.nodes → Kept d) {s t : Session}
    {moments : List Moment} (course : Course s moments t) (start : Kept s.cluster) : Kept t.cluster := by
  induction course with
  | done t => exact start
  | call call noScan course ih =>
    apply ih
    apply keeps_run invariant call ?_ start
    intro scan
    rw [noScan] at scan
    cases scan
  | aside nodes course ih => exact ih (congr start nodes)

/-- Records stay at their homes. -/
theorem placed {s t : Session} {moments : List Moment} (course : Course s moments t)
    (start : s.cluster.Placed) : t.cluster.Placed :=
  course.keeps Cluster.invariant_placed Cluster.Placed.congr start

end Course

/-! ## Courses of certain moments -/

/-- Moments with a property lead from a session to another. -/
def Leads (P : Moment → Prop) (s t : Session) : Prop :=
  ∃ moments, Course s moments t ∧ ∀ m ∈ moments, P m

namespace Leads

variable {P : Moment → Prop} {s t u : Session}

theorem of_nodes (nodes : t.cluster.nodes = s.cluster.nodes) : Leads P s t := by
  refine ⟨[], .of_nodes nodes, ?_⟩
  intro m member
  cases member

theorem call {c : StoreCall} (noScan : c.isScan = false) (here : P ⟨s, c⟩) : Leads P s (c.run s).2 :=
  ⟨[⟨s, c⟩], .call c noScan (.done _), List.forall_mem_singleton.2 here⟩

theorem trans (first : Leads P s t) (second : Leads P t u) : Leads P s u := by
  obtain ⟨past, before, here⟩ := first
  obtain ⟨later, after, there⟩ := second
  exact ⟨past ++ later, before.append after, List.forall_mem_append.2 ⟨here, there⟩⟩

theorem placed (leads : Leads P s t) (start : s.cluster.Placed) : t.cluster.Placed := by
  obtain ⟨moments, course, -⟩ := leads
  exact course.placed start

/-- A scan leads to where its handler leads. -/
theorem scan {handle : RowHandler Session} (handled : ∀ row u, Leads P u ((handle row).run u).2)
    {command : Command} (scan : command.isScan = true) (s : Session) :
    Leads P s ((direct.obey handle command).run s).2 := by
  have keeps : ∀ row u, Leads P s u → Leads P s ((handle row).run u).2 := by
    intro row u before
    exact before.trans (handled row u)
  exact scan_keeps keeps scan fun u steady => of_nodes steady.nodes

end Leads

/-- **What is reached is reached by a course.** -/
theorem Reaches.leads {s t : Session} (reaches : Reaches s t) : Leads (fun _ => True) s t := by
  induction reaches with
  | refl s => exact .of_nodes rfl
  | call before call handled ih handledLeads =>
    cases scan : call.isScan with
    | false => exact ih.trans (.call scan trivial)
    | true =>
      cases call with
      | command command handle => exact ih.trans (.scan handledLeads scan _)
      | _ => cases scan
  | aside before cluster ih => exact ih.trans (.of_nodes (congrArg _ cluster))

end Session

end RecordGate
