import BlobDispatch.Host.Scanner
import BlobDispatch.Proofs.Host.Registry
import BlobDispatch.Proofs.Store.Drain
import BlobDispatch.Proofs.Store.Walk
import BlobDispatch.Proofs.Template.Narrowing
import Mathlib.Data.List.Perm.Basic

/-! Scans against the plain walk over the store. Looking into one container only, listing under a
prefix and reading page by page leave out nothing that a trigger applies to, so a scan gives what
the trigger makes of every blob in turn. Over a whole registry it gives what dispatching every
blob gives, in the order of triggers instead of the order of blobs. -/

namespace BlobDispatch

namespace Trigger

variable {trigger : Trigger} {blob : Blob} {invocation : Invocation}

theorem bind_eq_some_iff : trigger.bind blob = some invocation ↔ ∃ binding,
    trigger.template.match? blob.container blob.name = some binding ∧
      invocation = ⟨trigger.name, blob, binding⟩ := by
  simp only [bind, Option.map_eq_some_iff, eq_comm (a := invocation)]

theorem startsWith_of_bind (bound : trigger.bind blob = some invocation) :
    Text.startsWith trigger.template.layout.objectLead blob.name = true := by
  obtain ⟨_, found, _⟩ := bind_eq_some_iff.1 bound
  exact Template.startsWith_of_match? found

theorem container_of_bind {name : String}
    (fixed : trigger.template.layout.fixedContainer? = some name)
    (bound : trigger.bind blob = some invocation) : blob.container = name := by
  obtain ⟨_, found, _⟩ := bind_eq_some_iff.1 bound
  exact Template.container_of_match? fixed found

end Trigger

namespace Scanner

variable {s : Store} {scanner : Scanner}

/-- A container that is looked through page by page gives what the trigger makes of its blobs. The
blobs that the prefix leaves out are none that the trigger applies to. -/
theorem scanContainer_eq_ok (wellFormed : s.WellFormed) (least : 1 ≤ scanner.pageSize)
    (most : scanner.pageSize ≤ s.config.maxPageSize) (trigger : Trigger) (name : String) :
    scanner.scanContainer s trigger name = .ok ((s.blobsIn name).filterMap trigger.bind) := by
  have positive : 1 ≤ s.config.maxPageSize := UInt64.le_trans least most
  have accepted : ∀ asked, some scanner.pageSize = some asked →
      1 ≤ asked ∧ asked ≤ s.config.maxPageSize := by
    intro asked same
    cases same
    exact ⟨least, most⟩
  obtain ⟨sized, long⟩ : s.pageSize (scanner.query trigger name) = .ok scanner.pageSize ∧
      0 < scanner.pageSize.toNat :=
    Store.pageSize_eq_ok positive (scanner.query trigger name) accepted
  have resolved : (scanner.query trigger name).target =
      .ok ⟨name, trigger.template.layout.objectLead⟩ := rfl
  cases found : s.containers.get? name with
  | none =>
    have refused := Store.pages_of_missing sized resolved found
    simp only [scanContainer, refused, Store.blobsIn_of_missing found, List.filterMap_nil]
  | some container =>
    obtain ⟨pages, _, all, cut⟩ := Store.exists_drain wellFormed sized long resolved found
    have shown : pages.flatMap Listing.Page.blobs = container.blobs.values.filter fun blob =>
        Text.startsWith trigger.template.layout.objectLead blob.name := by
      rw [cut.blobs_eq]
      exact Listing.blobs_listing_flat _ _
    simp only [scanContainer, all, shown, Store.blobsIn_of_get? found, List.filterMap_filter]
    apply congrArg
    apply List.filterMap_congr
    intro blob _
    cases bound : trigger.bind blob with
    | none => simp
    | some invocation => simp [Trigger.startsWith_of_bind bound]

private theorem mapM_eq_ok {α β ε : Type} {step : α → Except ε β} {f : α → β} (items : List α)
    (each : ∀ item, step item = .ok (f item)) : items.mapM step = .ok (items.map f) := by
  induction items with
  | nil => rfl
  | cons item rest ih => simp [List.mapM_cons, each, ih, bind, Except.bind, pure, Except.pure]

private theorem flatMap_eq_single {β : Type} {names : List String} {f : String → List β}
    {only : String} (distinct : names.Nodup) (elsewhere : ∀ name, name ≠ only → f name = []) :
    names.flatMap f = if only ∈ names then f only else [] := by
  induction names with
  | nil => rfl
  | cons name rest ih =>
    obtain ⟨fresh, later⟩ := List.nodup_cons.1 distinct
    rw [List.flatMap_cons, ih later]
    by_cases here : name = only
    · subst here
      simp [fresh]
    · simp [elsewhere name here, Ne.symm here]

theorem scan_eq_ok (wellFormed : s.WellFormed) (least : 1 ≤ scanner.pageSize)
    (most : scanner.pageSize ≤ s.config.maxPageSize) (trigger : Trigger) :
    scanner.scan s trigger =
      .ok ((s.walk scanner.systemContainers).filterMap trigger.bind) := by
  have looked := mapM_eq_ok (scanner.containers s trigger)
    (scanContainer_eq_ok wellFormed least most trigger)
  have scanned : scanner.scan s trigger = .ok ((scanner.containers s trigger).flatMap fun name =>
      (s.blobsIn name).filterMap trigger.bind) := by
    rw [scan, looked]
    rfl
  rw [scanned, Store.walk, List.filterMap_flatMap, containers]
  cases fixed : trigger.template.layout.fixedContainer? with
  | none => rfl
  | some only =>
    have elsewhere (name : String) (apart : name ≠ only) :
        (s.blobsIn name).filterMap trigger.bind = [] := by
      apply List.filterMap_eq_nil_iff.2
      intro blob member
      have inside := ((Store.mem_blobsIn_iff wellFormed).1 member).1
      cases bound : trigger.bind blob with
      | none => rfl
      | some invocation =>
        exact absurd (inside.symm.trans (Trigger.container_of_bind fixed bound)) apart
    have distinct : s.containerNames.Nodup :=
      s.containers.names_ascending.imp fun below => Std.ne_of_lt below
    rw [flatMap_eq_single ((List.nodup_singleton only).filter _) elsewhere,
      flatMap_eq_single (distinct.filter _) elsewhere]
    by_cases stored : only ∈ s.containerNames
    · simp [List.mem_filter, stored]
    · -- The container does not exist, and looking into it gives nothing.
      have missing : s.containers.get? only = none := by
        rw [Option.eq_none_iff_forall_ne_some]
        intro container found
        exact stored (NameTable.mem_names_iff.2 ⟨container, found⟩)
      simp [Store.blobsIn_of_missing missing]

section Dispatch

private theorem flatMap_bind_perm (triggers : List Trigger) (blobs : List Blob) :
    (triggers.flatMap fun trigger => blobs.filterMap trigger.bind).Perm
      (blobs.flatMap fun blob => triggers.filterMap fun trigger => trigger.bind blob) := by
  induction triggers with
  | nil => simp
  | cons trigger rest ih =>
    have split (blob : Blob) : ((trigger :: rest).filterMap fun t => t.bind blob) =
        (trigger.bind blob).toList ++ rest.filterMap fun t => t.bind blob := by
      cases bound : trigger.bind blob with
      | none => simp [bound]
      | some invocation => simp [bound]
    have here : blobs.filterMap trigger.bind = blobs.flatMap fun blob =>
        (trigger.bind blob).toList := List.filterMap_eq_flatMap_toList _ _
    simp only [split, List.flatMap_cons, here]
    exact (List.Perm.append_left _ ih).trans (List.flatMap_append_perm _ _ _)

private theorem filter_bind (trigger : Trigger) (blobs : List Blob) (kept : String → Bool) :
    (blobs.filterMap trigger.bind).filter (fun invocation => kept invocation.blob.container) =
      (blobs.filter fun blob => kept blob.container).filterMap trigger.bind := by
  rw [List.filter_filterMap, List.filterMap_filter]
  apply List.filterMap_congr
  intro blob _
  cases bound : trigger.bind blob with
  | none => simp
  | some invocation =>
    obtain ⟨_, _, rfl⟩ := Trigger.bind_eq_some_iff.1 bound
    cases chosen : kept blob.container with
    | true => simp [chosen]
    | false => simp [chosen]

private theorem flatMap_dispatch (registry : Registry) (blobs : List Blob) :
    blobs.flatMap registry.dispatch =
      (blobs.filter fun blob => !registry.isSystem blob.container).flatMap fun blob =>
        registry.triggers.filterMap fun trigger => trigger.bind blob := by
  induction blobs with
  | nil => rfl
  | cons blob rest ih =>
    rw [List.flatMap_cons, ih, Registry.dispatch]
    cases own : registry.isSystem blob.container with
    | true => simp [own]
    | false => simp [own]

theorem scanRegistry_eq_ok (wellFormed : s.WellFormed) (least : 1 ≤ scanner.pageSize)
    (most : scanner.pageSize ≤ s.config.maxPageSize) (registry : Registry) :
    scanner.scanRegistry s registry = .ok ((registry.triggers.flatMap fun trigger =>
      (s.walk scanner.systemContainers).filterMap trigger.bind).filter fun invocation =>
        !registry.isSystem invocation.blob.container) := by
  have looked := mapM_eq_ok registry.triggers (scan_eq_ok wellFormed least most)
  rw [scanRegistry, looked]
  rfl

/-- Where the scanner skips no more than the registry does, only the registry's own containers are
left out in the end. -/
private theorem walk_outside (wellFormed : s.WellFormed) {registry : Registry}
    {skipped : List String} (covered : ∀ name ∈ skipped, registry.isSystem name = true) :
    ((s.walk skipped).filter fun blob => !registry.isSystem blob.container) =
      (s.walk []).filter fun blob => !registry.isSystem blob.container := by
  rw [Store.walk_eq_filter wellFormed skipped, List.filter_filter]
  apply List.filter_congr
  intro blob _
  cases own : registry.isSystem blob.container with
  | true => simp
  | false =>
    have kept : blob.container ∉ skipped := by
      intro inside
      rw [covered _ inside] at own
      cases own
    simpa using kept

private theorem distinct_invocations {registry : Registry} (built : registry.Built)
    {blobs : List Blob} (ordered : blobs.Pairwise Blob.Before) :
    ((registry.triggers.flatMap fun trigger => blobs.filterMap trigger.bind).map fun invocation =>
      (invocation.trigger, invocation.blob.container, invocation.blob.name)).Nodup := by
  rw [List.Nodup, List.pairwise_map, List.pairwise_flatMap]
  constructor
  · intro trigger _
    rw [List.pairwise_filterMap]
    refine ordered.imp ?_
    intro a b before first firstBound second secondBound same
    obtain ⟨_, _, rfl⟩ := Trigger.bind_eq_some_iff.1 firstBound
    obtain ⟨_, _, rfl⟩ := Trigger.bind_eq_some_iff.1 secondBound
    simp only [Prod.mk.injEq] at same
    rcases before with below | ⟨_, below⟩
    · rw [same.2.1] at below
      exact List.lt_irrefl _ below
    · rw [same.2.2] at below
      exact List.lt_irrefl _ below
  · refine built.names_distinct.imp ?_
    intro t u apart first firstBound second secondBound same
    obtain ⟨a, _, firstBound⟩ := List.mem_filterMap.1 firstBound
    obtain ⟨b, _, secondBound⟩ := List.mem_filterMap.1 secondBound
    obtain ⟨_, _, rfl⟩ := Trigger.bind_eq_some_iff.1 firstBound
    obtain ⟨_, _, rfl⟩ := Trigger.bind_eq_some_iff.1 secondBound
    exact apart (congrArg Prod.fst same)

end Dispatch

/-- A scan is the plain walk. In every state, a scanner whose pages the store allows finds for a
trigger what binding every blob outside its system containers gives, in the order of addresses. For
a registry it finds this for one trigger after another, less what lies in the registry's own
containers; and if it skips none but these, it finds what dispatching every stored blob gives, each
blob once for a trigger. -/
theorem scan_eq_walk (reachable : s.Reachable) (least : 1 ≤ scanner.pageSize)
    (most : scanner.pageSize ≤ s.config.maxPageSize) :
    (∀ skipped, (s.walk skipped).Pairwise Blob.Before ∧ ∀ blob, blob ∈ s.walk skipped ↔
      blob.container ∉ skipped ∧ s.get blob.container blob.name = .ok blob) ∧
    (∀ trigger, scanner.scan s trigger =
      .ok ((s.walk scanner.systemContainers).filterMap trigger.bind)) ∧
    ∀ registry : Registry, ∃ found, scanner.scanRegistry s registry = .ok found ∧
      found = (registry.triggers.flatMap fun trigger =>
        (s.walk scanner.systemContainers).filterMap trigger.bind).filter (fun invocation =>
          !registry.isSystem invocation.blob.container) ∧
      ((∀ name ∈ scanner.systemContainers, name ∈ registry.settings.systemContainers) →
        found.Perm ((s.walk []).flatMap registry.dispatch)) ∧
      (registry.Built → (found.map fun invocation =>
        (invocation.trigger, invocation.blob.container, invocation.blob.name)).Nodup) := by
  have wellFormed := reachable.wellFormed
  refine ⟨?_, scan_eq_ok wellFormed least most, ?_⟩
  · intro skipped
    exact ⟨Store.walk_ascending wellFormed, fun _ => Store.mem_walk_iff wellFormed⟩
  · intro registry
    refine ⟨_, scanRegistry_eq_ok wellFormed least most registry, rfl, ?_, ?_⟩
    · intro covered
      have own : ∀ name ∈ scanner.systemContainers, registry.isSystem name = true := by
        intro name inside
        simpa [Registry.isSystem] using covered name inside
      rw [flatMap_dispatch, ← walk_outside wellFormed own, List.filter_flatMap]
      simp only [filter_bind _ _ fun name => !registry.isSystem name]
      exact flatMap_bind_perm _ _
    · intro built
      exact (distinct_invocations built (Store.walk_ascending wellFormed)).sublist
        (List.filter_sublist.map _)

/-- A trigger whose scan reads the two blobs of a directory on two pages, and its registry. -/
theorem scan_eq_walk_sample :
    Store.sample.Reachable ∧ 1 ≤ (ofPageSize 1).pageSize ∧
      (ofPageSize 1).pageSize ≤ Store.sample.config.maxPageSize ∧
      ∃ trigger registry found, Trigger.compile "t" "c/d/{n}" = .ok trigger ∧
        (Registry.new {}).register trigger = .ok registry ∧
        (ofPageSize 1).scan Store.sample trigger = .ok found ∧
        found.map (·.blob.name) = ["d/x", "d/y"] ∧
        ∃ all, (ofPageSize 1).scanRegistry Store.sample registry = .ok all ∧
          all.Perm ((Store.sample.walk []).flatMap registry.dispatch) ∧
          (all.map fun invocation =>
            (invocation.trigger, invocation.blob.container, invocation.blob.name)).Nodup := by
  have reachable : Store.sample.Reachable := ⟨{}, _, rfl⟩
  have least : 1 ≤ (ofPageSize 1).pageSize := by decide
  have most : (ofPageSize 1).pageSize ≤ Store.sample.config.maxPageSize := by decide
  obtain ⟨trigger, compiled, names⟩ : ∃ trigger, Trigger.compile "t" "c/d/{n}" = .ok trigger ∧
      ((Store.sample.walk [Host.hostsContainer]).filterMap trigger.bind).map (·.blob.name) =
        ["d/x", "d/y"] := ⟨_, rfl, by decide⟩
  obtain ⟨registry, registered, settings⟩ : ∃ registry,
      (Registry.new {}).register trigger = .ok registry ∧ registry.settings = {} := ⟨_, rfl, rfl⟩
  obtain ⟨_, scanned, overall⟩ := scan_eq_walk reachable least most
  obtain ⟨all, listed, _, permuted, distinct⟩ := overall registry
  refine ⟨reachable, least, most, trigger, registry, _, compiled, registered, scanned trigger,
    names, all, listed, permuted ?_, distinct (.register (.new {}) registered)⟩
  rw [settings]
  exact fun name inside => inside

end Scanner

end BlobDispatch
