import RecordGate.Proofs.Gate.Request
import RecordGate.Session

/-!
# Batches of any client

A batch has as many results as it has keys, whatever its client answers. An answer of that length is read
entry by entry, one of another length is a failure of the client in every place, and so is a failure with its
own code (`Batch.positional_of_any_client`).
-/

namespace RecordGate
set_option autoImplicit false

namespace Batch

variable {σ α : Type}

/-- The results for so many keys of a client's reply, whose entries become results by `value`. -/
structure Positional (value : α → CallResult) (n : Nat) (reply : Reply (List α)) (results : List CallResult) :
    Prop where
  length : results.length = n
  /-- A result is read off the entry in its place. -/
  aligned : ∀ answers, reply = .ok answers → answers.length = n →
    ∀ i : Nat, results[i]? = answers[i]?.map value
  misaligned : ∀ answers, reply = .ok answers → answers.length ≠ n →
    ∀ r ∈ results, r = .ofCode .clientError
  failed : ∀ e, reply = .error e → ∀ r ∈ results, r = .ofCode (.ofCode e.code)

theorem settled_positional (value : α → CallResult) (n : Nat) (reply : Reply (List α)) :
    Positional value n reply (settled n value reply) := by
  cases reply with
  | error e =>
    refine ⟨List.length_replicate, ?_, ?_, ?_⟩
    · rintro _ ⟨⟩
    · rintro _ ⟨⟩
    · rintro _ ⟨⟩ r member
      exact List.eq_of_mem_replicate member
  | ok answers =>
    rw [settled]
    split
    case isTrue fits =>
      refine ⟨(List.length_map _).trans fits, ?_, ?_, ?_⟩
      · rintro _ ⟨⟩ - i
        exact List.getElem?_map
      · rintro _ ⟨⟩ unfit
        exact absurd fits unfit
      · rintro _ ⟨⟩
    case isFalse unfit =>
      refine ⟨List.length_replicate, ?_, ?_, ?_⟩
      · rintro _ ⟨⟩ fits
        exact absurd fits unfit
      · rintro _ ⟨⟩ - r member
        exact List.eq_of_mem_replicate member
      · rintro _ ⟨⟩

/-- How a batch goes on after its command: a crash of the command is one of the batch, and of a reply it makes
the results. What it does beside is to leave notes. -/
inductive Relayed (env : Surroundings σ) (value : α → CallResult) (n : Nat) :
    Option (Reply (List α)) × σ → Option (List CallResult) × σ → Prop
  | crashed (t : σ) : Relayed env value n (none, t) (none, t)
  | replied {reply : Reply (List α)} {results : List CallResult} {t u : σ}
      (positional : Positional value n reply results) (noted : env.Noted t u) :
      Relayed env value n (some reply, t) (some results, u)

variable {env : Surroundings σ}

/-- The results of a command's reply. -/
theorem relayed_results {each : α → StateM σ CallResult} {value : α → CallResult}
    (values : ∀ a t, (each a t).1 = value a) (noted : ∀ a t, env.Noted t (each a t).2) (n : Nat)
    (command : Program σ (Reply (List α))) (s : σ) :
    Relayed env value n (command.run s)
      ((do results env n each (← command) : Program σ (List CallResult)).run s) := by
  rw [Program.run_bind]
  obtain ⟨_ | reply, t⟩ := command.run s
  · exact .crashed t
  · have positional := settled_positional value n reply
    rw [← results_fst env values n reply t] at positional
    exact .replied positional (Surroundings.noted_results noted n reply t)

/-- **Batches of any client are positional**: for keys the results are those of the reply to one command, in
the order of keys. Without keys there are no results, and nothing is done. -/
theorem positional_of_any_client (env : Surroundings σ) (policy : Policy) (keys : List Key)
    (selection : BinSelection) (s : σ) :
    (keys = [] →
        (get env policy keys selection).run s = (some [], s) ∧
          (contains env policy keys).run s = (some [], s)) ∧
      (keys ≠ [] →
        Relayed env (.ofReply .ofFoundRecord) keys.length
            ((env.client.batchGet policy keys selection).run (env.note (.batchReading keys.length) s).2)
            ((get env policy keys selection).run s) ∧
          Relayed env .ofPresence keys.length
            ((env.client.batchContains policy keys).run (env.note (.batchChecking keys.length) s).2)
            ((contains env policy keys).run s)) := by
  constructor
  · rintro rfl
    exact ⟨rfl, rfl⟩
  · intro present
    have asked : ¬keys.isEmpty = true := mt List.isEmpty_iff.1 present
    rw [get, contains, if_neg asked, if_neg asked]
    constructor
    · exact relayed_results (Gate.settle_fst env _) (Surroundings.noted_settle _) keys.length _ _
    · have values (found : Bool) (t : σ) :
          ((return CallResult.ofPresence found : StateM σ CallResult) t).1 = .ofPresence found := rfl
      exact relayed_results values (fun _ => .refl) keys.length _ _

/-- A session whose next command is answered with two flags. -/
def scriptedFlags : Session where
  cluster := default
  clock := 0
  seeds := []
  script := [{ answer := .ok { flags := some [true, false] } }]

/-- Two flags are no answer for one key. -/
theorem positional_of_scriptedFlags :
    ((contains (Session.surroundings []) {} [⟨"test", none, default⟩]).run scriptedFlags).1 =
      some [.ofCode .clientError] := by
  have relayed := ((positional_of_any_client (Session.surroundings []) {} [⟨"test", none, default⟩] .all
    scriptedFlags).2 (List.cons_ne_nil _ _)).2
  generalize (contains (Session.surroundings []) {} [⟨"test", none, default⟩]).run scriptedFlags = run at relayed
  cases relayed with
  | @replied _ results _ _ positional noted =>
    have fails := positional.misaligned [true, false] rfl (Nat.succ_ne_self 1)
    obtain ⟨r, only⟩ := List.length_eq_one_iff.1 positional.length
    rw [only] at fails ⊢
    rw [fails r (List.mem_singleton_self r)]

end Batch

end RecordGate
