import EditorBridge.Announcement
import EditorBridge.Proofs.Json.Places

/-!
# What is announced

The features are announced as members of the experimental capabilities, each by its switch under
its key (`lookup_flags`).  Main statements: a member of the announced capabilities is the flag of
that name if there is one, and otherwise what the host had put there (`get?_mergeInto`); and of two
announcements only the later counts (`announce_announce`).
-/

namespace EditorBridge

/-! ### Flags -/

namespace FeatureSwitches

open Json

/-- The flags as the record of the features' keys and switches. -/
theorem flags_eq_members (switches : FeatureSwitches) :
    switches.flags =
      Json.members (Feature.all.map fun f => (f.key, some (.bool (switches.isEnabled f)))) :=
  rfl

/-- Each feature has a flag, under its key: its switch. -/
theorem lookup_flags (switches : FeatureSwitches) (f : Feature) :
    switches.flags.lookup f.key = some (.bool (switches.isEnabled f)) := by
  rw [flags_eq_members]
  refine lookup_members ?_ ?_
  · rw [List.map_map]
    exact Feature.nodup_keys
  · exact List.mem_map_of_mem f.mem_all

/-- There is no flag under another name. -/
theorem lookup_flags_of_ne (switches : FeatureSwitches) {name : String}
    (h : ∀ f : Feature, name ≠ f.key) : switches.flags.lookup name = none := by
  rw [flags_eq_members]
  refine lookup_members_of_notMem ?_
  rw [List.map_map]
  intro hname
  obtain ⟨f, -, hf⟩ := List.mem_map.mp hname
  exact h f hf.symm

/-- **What is announced under a name** is the flag of that name, and if there is none, what the host
had put there. -/
theorem get?_mergeInto (switches : FeatureSwitches) (experimental : Json) (name : String) :
    (switches.mergeInto experimental).get? name =
      (switches.flags.lookup name).or (experimental.get? name) := by
  cases experimental with
  | obj members =>
    have hnames : (switches.flags.map Prod.fst).Nodup := nodup_sortMembers switches.members
    exact lookup_foldl_insertMember hnames members name
  | _ => exact Option.or_none.symm

/-! ### Announcing again -/

/-- The members that an experimental value brings to an announcement. -/
def kept : Json → List (String × Json)
  | .obj members => members
  | _ => []

/-- What is announced is the flags, added to what is kept of the host's. -/
theorem mergeInto_eq (switches : FeatureSwitches) (experimental : Json) :
    switches.mergeInto experimental =
      .obj (switches.flags.foldl (fun ms flag => insertMember flag.1 flag.2 ms)
        (kept experimental)) := by
  -- The flags are in order, so adding them to nothing gives the flags.
  have hflags : switches.flags.foldl (fun ms flag => insertMember flag.1 flag.2 ms) [] =
      switches.flags := by
    have hkeys : KeysIncrease (.obj ([] ++ sortMembers switches.members)) := by
      rw [List.nil_append]
      exact keysIncrease_sortMembers switches.members
    rw [flags, foldl_insertMember_of_keysIncrease hkeys, List.nil_append]
  cases experimental with
  | obj members => rfl
  | _ => exact congrArg obj hflags.symm

/-- What is announced keeps the order of the keys. -/
theorem keysIncrease_mergeInto (switches : FeatureSwitches) {experimental : Json}
    (h : KeysIncrease experimental) : KeysIncrease (switches.mergeInto experimental) := by
  rw [mergeInto_eq]
  refine keysIncrease_foldl_insertMember _ ?_
  cases experimental with
  | obj members => exact h
  | _ => exact List.Pairwise.nil

/-- Each flag of one announcement has its key among the flags of every other. -/
theorem key_mem_flags (first second : FeatureSwitches) :
    ∀ flag ∈ first.flags, flag.1 ∈ second.flags.map Prod.fst := by
  intro flag hflag
  by_cases hkey : ∃ f : Feature, flag.1 = f.key
  · obtain ⟨f, hf⟩ := hkey
    obtain ⟨before, after, hflags, -⟩ := List.lookup_eq_some_iff.mp (second.lookup_flags f)
    rw [hflags, hf]
    simp
  · -- A flag under another name would be found there.
    have hnone := first.lookup_flags_of_ne fun f hf => hkey ⟨f, hf⟩
    exact absurd rfl (bne_iff_ne.mp (List.lookup_eq_none_iff.mp hnone flag hflag))

/-- Of two announcements only the later counts. -/
theorem announce_announce (first second : FeatureSwitches) (capabilities : ClientCapabilities) :
    second.announce (first.announce capabilities) = second.announce capabilities := by
  have hmerge : second.mergeInto (first.mergeInto capabilities.experimental) =
      second.mergeInto capabilities.experimental := by
    rw [mergeInto_eq first, mergeInto_eq second, mergeInto_eq second, kept,
      foldl_insertMember_foldl (key_mem_flags first second)]
  rw [announce, announce, announce, hmerge]

end FeatureSwitches

end EditorBridge
