import BridgeClient.Ledger.Message

set_option autoImplicit false

/-!
The roster of a message. Collecting lists every key once, by its first mention, with all the roles
that its mentions ask for; mentions that repeat what was said change nothing. Arranging permutes the
entries so that each group is a run of places.
-/
namespace BridgeClient

theorem eraseDups_append_singleton {α : Type} [DecidableEq α] (items : List α) (item : α) :
    (items ++ [item]).eraseDups =
      if item ∈ items then items.eraseDups else items.eraseDups ++ [item] := by
  rw [List.eraseDups_append]
  by_cases present : item ∈ items <;> simp [List.cons_removeAll, present, List.eraseDups_cons]

theorem nodup_eraseDups {α : Type} [DecidableEq α] (items : List α) : items.eraseDups.Nodup := by
  suffices ∀ front back : List α, front.eraseDups.Nodup → (front ++ back).eraseDups.Nodup by
    simpa using this [] items (by simp)
  intro front back
  induction back generalizing front with
  | nil => simp
  | cons item rest ih =>
      intro distinct
      rw [← List.singleton_append, ← List.append_assoc]
      apply ih
      rw [eraseDups_append_singleton]
      split
      · exact distinct
      · rename_i fresh
        rw [List.nodup_append]
        refine ⟨distinct, by simp, ?_⟩
        intro other inside last ends same
        rw [same, List.mem_singleton.mp ends] at inside
        exact fresh (List.mem_eraseDups.mp inside)

namespace Roster

/-- The entry of a key: the roles of all its mentions together. -/
def merged (mentions : List AccountMeta) (key : Key) : AccountMeta :=
  ⟨key, mentions.any fun mention => decide (mention.key = key) && mention.isSigner,
    mentions.any fun mention => decide (mention.key = key) && mention.isWritable⟩

/-- Every key once, by its first mention, with its roles. -/
def entries (mentions : List AccountMeta) : List AccountMeta :=
  (mentions.map AccountMeta.key).eraseDups.map (merged mentions)

theorem merged_append_singleton (mentions : List AccountMeta) (mention : AccountMeta) (key : Key) :
    merged (mentions ++ [mention]) key =
      if mention.key = key then (merged mentions key).join mention else merged mentions key := by
  by_cases same : mention.key = key <;> simp [merged, AccountMeta.join, same]

theorem merged_of_not_mem {mentions : List AccountMeta} {key : Key}
    (absent : key ∉ mentions.map AccountMeta.key) : merged mentions key = ⟨key, false, false⟩ := by
  have silent : ∀ mention ∈ mentions, mention.key ≠ key := by
    rintro mention inside rfl
    exact absent (List.mem_map_of_mem inside)
  have none_of {role : AccountMeta → Bool} :
      (mentions.any fun mention => decide (mention.key = key) && role mention) = false := by
    rw [List.any_eq_false]
    intro mention inside
    simp [silent mention inside]
  simp only [merged, none_of]

theorem add_of_not_mem {roster : List AccountMeta} {mention : AccountMeta}
    (absent : mention.key ∉ roster.map AccountMeta.key) :
    add roster mention = roster ++ [mention] := by
  induction roster with
  | nil => rfl
  | cons account rest ih =>
      simp only [List.map_cons, List.mem_cons, not_or] at absent
      rw [add, if_neg (fun same => absent.1 same.symm), ih absent.2, List.cons_append]

theorem add_map_of_mem {keys : List Key} {entry : Key → AccountMeta} {mention : AccountMeta}
    (named : ∀ key, (entry key).key = key) (distinct : keys.Nodup) (present : mention.key ∈ keys) :
    add (keys.map entry) mention =
      keys.map fun key => if mention.key = key then (entry key).join mention else entry key := by
  induction keys with
  | nil => cases present
  | cons key rest ih =>
      have apart := (List.nodup_cons.mp distinct).1
      simp only [List.map_cons, add, named]
      by_cases same : key = mention.key
      · subst same
        rw [if_pos rfl, if_pos rfl]
        congr 1
        apply List.map_congr_left
        intro other inside
        rw [if_neg]
        rintro rfl
        exact apart inside
      · have remaining := (List.mem_cons.mp present).resolve_left (fun equal => same equal.symm)
        rw [if_neg same, if_neg (fun equal => same equal.symm),
          ih (List.nodup_cons.mp distinct).2 remaining]

/-- One more mention joins the entry of its key, or is a new entry. -/
theorem add_entries (mentions : List AccountMeta) (mention : AccountMeta) :
    add (entries mentions) mention = entries (mentions ++ [mention]) := by
  unfold entries
  rw [List.map_append, List.map_singleton, eraseDups_append_singleton]
  by_cases present : mention.key ∈ mentions.map AccountMeta.key
  · rw [if_pos present, add_map_of_mem (fun _ => rfl) (nodup_eraseDups _)
      (List.mem_eraseDups.mpr present)]
    apply List.map_congr_left
    intro key _
    rw [merged_append_singleton]
  · rw [if_neg present, add_of_not_mem (by simpa [merged] using present), List.map_append]
    congr 1
    · apply List.map_congr_left
      intro key inside
      have other : mention.key ≠ key := by
        rintro rfl
        exact present (List.mem_eraseDups.mp inside)
      rw [merged_append_singleton, if_neg other]
    · simp only [List.map_singleton, merged_append_singleton, if_true, merged_of_not_mem present,
        AccountMeta.join, Bool.false_or]

theorem foldl_add_entries (before mentions : List AccountMeta) :
    mentions.foldl add (entries before) = entries (before ++ mentions) := by
  induction mentions generalizing before with
  | nil => simp
  | cons mention rest ih =>
      rw [List.foldl_cons, add_entries, ih, List.append_assoc, List.singleton_append]

theorem collect_eq_entries (mentions : List AccountMeta) : collect mentions = entries mentions :=
  foldl_add_entries [] mentions

@[simp] theorem merged_key (mentions : List AccountMeta) (key : Key) :
    (merged mentions key).key = key := rfl

theorem merged_isSigner_iff (mentions : List AccountMeta) (key : Key) :
    (merged mentions key).isSigner = true ↔
      ∃ mention ∈ mentions, mention.key = key ∧ mention.isSigner = true := by
  simp [merged]

theorem merged_isWritable_iff (mentions : List AccountMeta) (key : Key) :
    (merged mentions key).isWritable = true ↔
      ∃ mention ∈ mentions, mention.key = key ∧ mention.isWritable = true := by
  simp [merged]

theorem keys_entries (mentions : List AccountMeta) :
    (entries mentions).map AccountMeta.key = (mentions.map AccountMeta.key).eraseDups := by
  simp [entries, Function.comp_def]

theorem mem_entries_iff {mentions : List AccountMeta} {account : AccountMeta} :
    account ∈ entries mentions ↔
      account.key ∈ mentions.map AccountMeta.key ∧ account = merged mentions account.key := by
  simp only [entries, List.mem_map (l := List.eraseDups _), List.mem_eraseDups]
  constructor
  · intro entry
    obtain ⟨key, inside, rfl⟩ := entry
    exact ⟨inside, rfl⟩
  · intro entry
    obtain ⟨inside, same⟩ := entry
    exact ⟨account.key, inside, same.symm⟩

/-- What was mentioned already adds neither a key nor a role. -/
theorem entries_append_of_subset {mentions later : List AccountMeta}
    (said : ∀ mention ∈ later, mention ∈ mentions) :
    entries (mentions ++ later) = entries mentions := by
  have keys : ((mentions ++ later).map AccountMeta.key).eraseDups =
      (mentions.map AccountMeta.key).eraseDups := by
    have covered : (later.map AccountMeta.key).removeAll (mentions.map AccountMeta.key) = [] := by
      rw [List.removeAll, List.filter_eq_nil_iff]
      intro key inside
      obtain ⟨mention, among, rfl⟩ := List.mem_map.mp inside
      simp [List.mem_map_of_mem (f := AccountMeta.key) (said mention among)]
    rw [List.map_append, List.eraseDups_append, covered, List.eraseDups_nil, List.append_nil]
  have roles (key : Key) : merged (mentions ++ later) key = merged mentions key := by
    have some_of (role : AccountMeta → Bool) :
        (mentions ++ later).any (fun mention => decide (mention.key = key) && role mention) =
          mentions.any fun mention => decide (mention.key = key) && role mention := by
      rw [Bool.eq_iff_iff, List.any_eq_true, List.any_eq_true]
      constructor
      · intro asked
        obtain ⟨mention, inside, asks⟩ := asked
        exact ⟨mention, (List.mem_append.mp inside).elim id (said mention), asks⟩
      · intro asked
        obtain ⟨mention, inside, asks⟩ := asked
        exact ⟨mention, List.mem_append_left _ inside, asks⟩
    simp only [merged, some_of]
  unfold entries
  rw [keys]
  exact List.map_congr_left fun key _ => roles key

/-- The entries of one group. -/
def members (accounts : List AccountMeta) (group : Nat) : List AccountMeta :=
  accounts.filter fun account => account.group = group

theorem mem_members {accounts : List AccountMeta} {group : Nat} {account : AccountMeta} :
    account ∈ members accounts group ↔ account ∈ accounts ∧ account.group = group := by
  simp [members]

theorem arrange_eq (accounts : List AccountMeta) :
    arrange accounts = members accounts 0 ++ members accounts 1 ++
      (members accounts 2 ++ members accounts 3) := by
  simp [arrange, members]

/-- Arranging loses and adds no entry. -/
theorem arrange_perm (accounts : List AccountMeta) : (arrange accounts).Perm accounts := by
  induction accounts with
  | nil => exact .refl _
  | cons account rest ih =>
      rw [arrange_eq] at ih ⊢
      rcases account with ⟨key, isSigner, isWritable⟩
      cases isSigner <;> cases isWritable
      case true.true => exact ih.cons _
      case true.false =>
        rw [List.append_assoc] at ih ⊢
        exact List.perm_middle.trans (ih.cons _)
      case false.true => exact List.perm_middle.trans (ih.cons _)
      case false.false =>
        rw [← List.append_assoc] at ih ⊢
        exact List.perm_middle.trans (ih.cons _)

theorem arrange_sorted (accounts : List AccountMeta) :
    (arrange accounts).Pairwise fun first second => first.group ≤ second.group := by
  have run (group : Nat) : (members accounts group).Pairwise fun first second =>
      first.group ≤ second.group := by
    apply List.pairwise_of_forall_mem_list
    intro first inside second among
    exact Nat.le_of_eq ((mem_members.mp inside).2.trans (mem_members.mp among).2.symm)
  simp only [arrange_eq, List.pairwise_append, List.mem_append, run, true_and]
  refine ⟨?_, ?_, ?_⟩ <;> simp only [mem_members] <;> omega

/-- In a list that rises, the places below a bound come first. -/
theorem place_lt_countP_iff {accounts : List AccountMeta}
    (sorted : accounts.Pairwise fun first second => first.group ≤ second.group) (bound : Nat)
    {place : Nat} {account : AccountMeta} (found : accounts[place]? = some account) :
    place < accounts.countP (fun other => other.group < bound) ↔ account.group < bound := by
  induction accounts generalizing place with
  | nil => simp at found
  | cons head rest ih =>
      obtain ⟨least, rising⟩ := List.pairwise_cons.mp sorted
      by_cases low : head.group < bound
      · rw [List.countP_cons_of_pos (by simpa using low)]
        cases place with
        | zero =>
            cases found
            simp [low]
        | succ place =>
            rw [Nat.add_lt_add_iff_right]
            exact ih rising found
      · have high : ∀ other ∈ head :: rest, ¬ other.group < bound := by
          intro other inside
          rcases List.mem_cons.mp inside with rfl | inside
          · exact low
          · have := least other inside
            omega
        have none_low : (head :: rest).countP (fun other => other.group < bound) = 0 := by
          rw [List.countP_eq_zero]
          simpa using high
        rw [none_low]
        have := high account (List.mem_of_getElem? found)
        omega

end Roster
end BridgeClient
