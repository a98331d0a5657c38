import Provision.Proofs.Reconciliation
import Provision.Proofs.StoredIdentity

/-!
What a creation reports. The state is that of a lookup of its own, after the object was created, so
it has an identifier only where the platform shows the new object at once.
-/

namespace Provision.Operation

open Attempt

theorem created_of_ok {config : Config} {connection : Connection} {before : List Statement}
    {resource : Resource} {state : State}
    (created : (play connection before (create config resource)).1 = .ok state) :
    ∃ statement object, creation config resource = .ok (statement, object) ∧
      statement.form.violations = [] ∧
      play connection before (create config resource) =
        play connection (before ++ [statement])
          (read config resource.id (some object.encode)) := by
  cases made : creation config resource with
  | error cause => simp [play_create_refused made] at created
  | ok creation =>
      obtain ⟨statement, object⟩ := creation
      rw [play_create_made made] at created ⊢
      obtain ⟨accepted, -, played⟩ := performed_of_ok created
      exact ⟨statement, object, rfl, accepted _ List.mem_cons_self, played⟩

/-- A creation that succeeds has created an object and looked it up. It reports the object, with the
identifier that leads back to it, exactly if a row of the answer shows it; if none does it reports
that there is nothing. -/
theorem created_state (config : Config) (connection : Connection) (before : List Statement)
    (resource : Resource) (state : State)
    (created : (play connection before (create config resource)).1 = .ok state) :
    ∃ statement object lookup shown, statement.effect? = some (.create, object) ∧
      Lookup.ofType? resource.id.resourceType = some lookup ∧
      lookup.Answered config connection (before ++ [statement])
        (play connection before (create config resource)).2 object.encode object shown ∧
      (state.exists? ∧ state.identifier? = some object.encode ↔
        ∃ entry ∈ shown, entry.1 = object) ∧
      ((∀ entry ∈ shown, entry.1 ≠ object) → state = .absent resource.id) := by
  obtain ⟨statement, object, made, accepted, played⟩ := created_of_ok created
  rw [played] at created ⊢
  obtain ⟨kind, typed, makes⟩ := makes_of_creation made accepted
  have supported := ObjectKind.supported typed.symm
  have asked := ObjectKind.lookup_ask_eq_ok_iff.mpr ⟨makes.has.stores, rfl⟩
  obtain ⟨shown, answered, reported⟩ := read_of_ask supported asked created
  refine ⟨statement, object, kind.lookup, shown, makes.effect, supported, answered, ?_, ?_⟩
  · cases first : shown.find? fun entry => entry.1 = object with
    | some entry =>
        obtain rfl : state = .existing resource.id (some object.encode) entry.2 := by
          rw [reported, first]
        have shows : entry.1 = object := by simpa using List.find?_some first
        exact iff_of_true ⟨rfl, rfl⟩ ⟨entry, List.mem_of_find?_eq_some first, shows⟩
    | none =>
        obtain rfl : state = .absent resource.id := by rw [reported, first]
        refine iff_of_false (by simp [State.exists?]) ?_
        rintro ⟨entry, member, shows⟩
        simpa [shows] using List.find?_eq_none.mp first entry member
  · intro missing
    have none : (shown.find? fun entry => entry.1 = object) = none := by simpa using missing
    rw [reported, none]

theorem created_state_commented :
    ∃ state shown,
      (play (showing "hello") [] (create {} (commented "hello"))).1 = .ok state ∧
      Lookup.pools.Answered {} (showing "hello") [.createPool (request "hello")]
        (play (showing "hello") [] (create {} (commented "hello"))).2 "POOL" (.account ⟨"POOL"⟩)
        shown ∧
      (∃ entry ∈ shown, entry.1 = .account ⟨"POOL"⟩) ∧
      state.exists? ∧ state.identifier? = some "POOL" := by
  have created := congrArg Prod.fst (play_create_commented "hello")
  obtain ⟨statement, object, lookup, shown, creates, supported, answered, reports, -⟩ :=
    created_state {} (showing "hello") [] (commented "hello") _ created
  obtain rfl : Lookup.pools = lookup := Option.some.inj supported
  obtain rfl : statement = .createPool (request "hello") := by
    obtain ⟨asked, rows, -, sent, -⟩ := answered
    rw [play_create_commented] at sent
    exact (List.cons.inj sent).1.symm
  obtain rfl : (request "hello").name.toIdentifier = object :=
    (Prod.mk.inj (Option.some.inj creates)).2
  have encoded : (request "hello").name.toIdentifier.encode = "POOL" :=
    show (AccountId.toIdentifier ⟨"POOL"⟩).encode = _ by decide
  rw [encoded] at answered reports
  exact ⟨_, shown, created, answered, reports.mp ⟨rfl, rfl⟩, rfl, rfl⟩

theorem play_create_silent :
    play silent [] (create {} (commented "hello")) =
      (.ok (.absent (commented "hello").id),
        [.createPool (request "hello"), .showPools { like? := some "POOL" }]) := by
  have leads : accountId "POOL" = .ok ⟨"POOL"⟩ := rfl
  have encoded : (request "hello").name.toIdentifier.encode = "POOL" :=
    show (AccountId.toIdentifier ⟨"POOL"⟩).encode = _ by decide
  rw [play_create _ _ (creation_commented "hello") (accepted_createPool "hello")
      (show answer silent none [] _ = .ok [] from rfl),
    encoded, play_read _ _ {} "POOL" (show _ = some Lookup.pools from rfl), Lookup.ask_pools leads]
  dsimp only
  rw [play_rows_accepted _ _ _ (Statement.showPools_like_accepted "POOL")]
  rfl

theorem not_forall_created_exists :
    ¬∀ (config : Config) (connection : Connection) (before sent : List Statement)
        (resource : Resource) (state : State),
      resource.id.resourceType = "compute_pool" ∨ resource.id.resourceType = "image_repository" →
      play connection before (create config resource) = (.ok state, before ++ sent) →
      state.exists? ∧ ∃ statement ∈ sent, ∃ object,
        statement.effect? = some (.create, object) ∧ state.identifier? = some object.encode := by
  intro always
  obtain ⟨present, -⟩ :=
    always {} silent [] _ (commented "hello") _ (.inl rfl) play_create_silent
  simp [State.exists?] at present

end Provision.Operation
