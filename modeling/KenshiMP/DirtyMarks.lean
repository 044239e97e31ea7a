/-
**Dirty marks: each is reported by the present or the next call with its mask, if nothing takes it away.**

A call looks only at remote entities; and what one call reports, another call with a flag in common no
longer finds, or finds too, if both look before one of them clears. `Guard` excludes these three things for
one mask. `Due` says where a mark is: in a result that has been returned, noted by a call that goes on, or
still set, with the call that has begun since not past it. `Account` keeps that over a run.
-/

import KenshiMP.Client.DirtyFlags
import KenshiMP.Lib.Histories

namespace KenshiMP

open Assoc

namespace DirtyFlags

variable (mask : UInt16)

/-! ### What should be -/

/-- The number of the first call with the mask. -/
def nextCall (history : List Entry) : Option Nat :=
  history.findSome? fun
    | .began number other => if other = mask then some number else none
    | _ => none

/-- When the next call has returned, the entity is in the result of this call or of one that was going on
when it was marked. -/
def Prompt (history : List Entry) : Prop :=
  ∀ (before after : List Entry) (netId : EntityID) (flags : UInt16),
    history = before ++ .marked netId flags :: after → flags &&& mask ≠ 0 →
    ∀ next result, nextCall mask after = some next → .returned next mask result ∈ after →
      ∃ number ≤ next, ∃ found, .returned number mask found ∈ after ∧ netId ∈ found

/-- An entity that is reported twice is marked in between. -/
def Quiet (history : List Entry) : Prop :=
  ∀ (before between after : List Entry) (one two : Nat) (netId : EntityID),
    history = before ++ .reported one mask netId :: (between ++ .reported two mask netId :: after) →
    ∃ flags, .marked netId flags ∈ between ∧ flags &&& mask ≠ 0

/-- A call with the mask leaves the other flags of every entity. -/
def KeepsOthers (s : Consumers) (event : Event) : Prop :=
  ∀ number call, event = .proceed number → s.calls.lookup number = some call → call.mask = mask →
    ∀ netId, (Consumers.machine.next s event).registry.dirtyFlags netId &&& ~~~mask
      = s.registry.dirtyFlags netId &&& ~~~mask

/-- Marks for the mask are on remote entities; while a call with the mask is going on, no other one
begins; and no call has another mask with a flag in common. -/
def Guard (s : Consumers) : Event → Prop
  | .mark netId flags => flags &&& mask ≠ 0 → s.registry.isRemote netId = true
  | .consumeDirty other =>
    if other = mask then ∀ number call, s.calls.lookup number = some call → call.mask ≠ mask
    else other &&& mask = 0
  | .proceed _ => True

variable {mask}

/-! ### Histories -/

theorem nextCall_append (first second : List Entry) :
    nextCall mask (first ++ second) = (nextCall mask first).or (nextCall mask second) :=
  List.findSome?_append

/-! ### Where a mark is -/

/-- The entity of a mark, with what has happened since. -/
inductive Due (mask : UInt16) (s : Consumers) (after : List Entry) (netId : EntityID) : Prop where
  | answered (number : Nat) (found : List EntityID) (there : .returned number mask found ∈ after)
      (has : netId ∈ found) (soon : ∀ next, nextCall mask after = some next → number ≤ next)
  | noted (number : Nat) (call : ConsumeCall) (going : s.calls.lookup number = some call)
      (watched : call.mask = mask) (has : netId ∈ call.result)
      (soon : ∀ next, nextCall mask after = some next → next = number)
  | waits (dirty : s.registry.isDirty netId mask = true) (remote : s.registry.isRemote netId = true)
      (soon : ∀ next, nextCall mask after = some next →
        ∃ call, s.calls.lookup next = some call ∧ call.mask = mask ∧ netId ∈ call.remotes)

/-- After a report, the entity is marked, or has no flag of the mask, or is about to lose it. -/
inductive Clean (mask : UInt16) (s : Consumers) (after : List Entry) (netId : EntityID) : Prop where
  | marked (flags : UInt16) (there : .marked netId flags ∈ after) (bit : flags &&& mask ≠ 0)
  | clean (none : s.registry.isDirty netId mask = false)
  | clearing (number : Nat) (call : ConsumeCall) (rest : List EntityID)
      (going : s.calls.lookup number = some call) (watched : call.mask = mask) (noted : call.noted = true)
      (first : call.remotes = netId :: rest)

/-- The calls that go on. -/
structure Orderly (mask : UInt16) (history : List Entry) (s : Consumers) : Prop where
  numbers : ∀ number call, s.calls.lookup number = some call → number < s.begun
  returned : ∀ number other result, .returned number other result ∈ history →
    number < s.begun ∧ s.calls.lookup number = none
  one : ∀ number call other call', s.calls.lookup number = some call →
    s.calls.lookup other = some call' → call.mask = mask → call'.mask = mask → number = other
  apart : ∀ number call, s.calls.lookup number = some call → call.mask = mask ∨ call.mask &&& mask = 0
  noted : ∀ number call netId rest, s.calls.lookup number = some call → call.noted = true →
    call.remotes = netId :: rest → netId ∈ call.result

structure Account (mask : UInt16) (history : List Entry) (s : Consumers) : Prop extends
    Orderly mask history s where
  due : ∀ before after netId flags, history = before ++ .marked netId flags :: after →
    flags &&& mask ≠ 0 → Due mask s after netId
  clean : ∀ before after number netId, history = before ++ .reported number mask netId :: after →
    Clean mask s after netId
  quiet : Quiet mask history

variable {history : List Entry} {s : Consumers}

/-- **With the account kept, marks are prompt.** -/
theorem Account.prompt (account : Account mask history s) : Prompt mask history := by
  intro before after netId flags parts bit next result first there
  have inside : Entry.returned next mask result ∈ history := by
    rw [parts]
    exact List.mem_append_right _ (List.mem_cons_of_mem _ there)
  have gone := (account.returned _ _ _ inside).2
  cases account.due before after netId flags parts bit with
  | answered number found there has soon => exact ⟨number, soon next first, found, there, has⟩
  | noted number call going watched has soon =>
    rw [soon next first, going] at gone
    cases gone
  | waits dirty remote soon =>
    obtain ⟨call, going, -⟩ := soon next first
    rw [going] at gone
    cases gone

/-! ### A call that goes on -/

/-- A call is among those after an insertion as it was, or it is the new one. -/
theorem of_lookup_insert {calls : AMap Nat ConsumeCall} {number other : Nat} {call found : ConsumeCall}
    (stored : (AList.insert number call calls).lookup other = some found) :
    (other = number ∧ found = call) ∨ (other ≠ number ∧ calls.lookup other = some found) := by
  rw [AMap.lookup_insert_eq] at stored
  split_ifs at stored with same
  · exact .inl ⟨same, (Option.some.inj stored).symm⟩
  · exact .inr ⟨same, stored⟩

section GoesOn

variable {number : Nat} {call call' : ConsumeCall} {registry : EntityRegistry} {more : List Entry}

/-- The state after a call has gone on. -/
def goneOn (s : Consumers) (number : Nat) (call' : ConsumeCall) (registry : EntityRegistry) : Consumers :=
  { s with registry := registry, calls := AList.insert number call' s.calls }

theorem goneOn_lookup (other : Nat) : (goneOn s number call' registry).calls.lookup other
    = if other = number then some call' else s.calls.lookup other :=
  AMap.lookup_insert_eq _ _ _ _

theorem Orderly.goesOn (orderly : Orderly mask history s) (going : s.calls.lookup number = some call)
    (same : call'.mask = call.mask)
    (noted : ∀ netId rest, call'.noted = true → call'.remotes = netId :: rest → netId ∈ call'.result)
    (silent : ∀ entry ∈ more, ∀ n m result, entry ≠ .returned n m result) :
    Orderly mask (history ++ more) (goneOn s number call' registry) where
  numbers other found stored := by
    rcases of_lookup_insert stored with ⟨rfl, -⟩ | ⟨-, before⟩
    · exact orderly.numbers _ _ going
    · exact orderly.numbers _ _ before
  returned other m result there := by
    rcases List.mem_append.mp there with before | now
    · obtain ⟨early, gone⟩ := orderly.returned _ _ _ before
      refine ⟨early, ?_⟩
      rw [goneOn_lookup, if_neg, gone]
      rintro rfl
      rw [going] at gone
      cases gone
    · exact absurd rfl (silent _ now other m result)
  one first found second found' stored stored' watched watched' := by
    have origin (n : Nat) (c : ConsumeCall) (stored : (goneOn s number call' registry).calls.lookup n = some c) :
        ∃ old, s.calls.lookup n = some old ∧ old.mask = c.mask := by
      rcases of_lookup_insert stored with ⟨rfl, rfl⟩ | ⟨-, before⟩
      · exact ⟨call, going, same.symm⟩
      · exact ⟨c, before, rfl⟩
    obtain ⟨old, before, masks⟩ := origin _ _ stored
    obtain ⟨old', before', masks'⟩ := origin _ _ stored'
    exact orderly.one _ _ _ _ before before' (masks.trans watched) (masks'.trans watched')
  apart other found stored := by
    rcases of_lookup_insert stored with ⟨rfl, rfl⟩ | ⟨-, before⟩
    · rw [same]
      exact orderly.apart _ _ going
    · exact orderly.apart _ _ before
  noted other found netId rest stored isNoted first := by
    rcases of_lookup_insert stored with ⟨rfl, rfl⟩ | ⟨-, before⟩
    · exact noted netId rest isNoted first
    · exact orderly.noted _ _ _ _ before isNoted first

/-- A mark stays due: the entity stays dirty and on the list, or is noted. -/
theorem Due.goesOn {after : List Entry} {netId : EntityID} (due : Due mask s after netId)
    (orderly : Orderly mask history s) (going : s.calls.lookup number = some call)
    (same : call'.mask = call.mask) (grows : ∀ id ∈ call.result, id ∈ call'.result)
    (remote : registry.isRemote netId = s.registry.isRemote netId)
    (keeps : s.registry.isDirty netId mask = true →
      (registry.isDirty netId mask = true ∧ (call.mask = mask → netId ∈ call.remotes → netId ∈ call'.remotes))
        ∨ (call.mask = mask ∧ netId ∈ call'.result)) (silent : nextCall mask more = none) :
    Due mask (goneOn s number call' registry) (after ++ more) netId := by
  have next : nextCall mask (after ++ more) = nextCall mask after := by
    rw [nextCall_append, silent, Option.or_none]
  cases due with
  | answered n found there has soon =>
    exact .answered n found (List.mem_append_left _ there) has (by rw [next]; exact soon)
  | noted n c stored watched has soon =>
    by_cases here : n = number
    · subst here
      cases going.symm.trans stored
      exact .noted n call' (by rw [goneOn_lookup, if_pos rfl]) (same.trans watched) (grows _ has)
        (by rw [next]; exact soon)
    · exact .noted n c (by rw [goneOn_lookup, if_neg here]; exact stored) watched has
        (by rw [next]; exact soon)
  | waits dirty isRemote soon =>
    rcases keeps dirty with ⟨still, onList⟩ | ⟨watched, inResult⟩
    · refine .waits still (remote.trans isRemote) fun n first => ?_
      rw [next] at first
      obtain ⟨c, stored, watched, inside⟩ := soon n first
      by_cases here : n = number
      · subst here
        cases going.symm.trans stored
        exact ⟨call', by rw [goneOn_lookup, if_pos rfl], same.trans watched, onList watched inside⟩
      · exact ⟨c, by rw [goneOn_lookup, if_neg here]; exact stored, watched, inside⟩
    · refine .noted number call' (by rw [goneOn_lookup, if_pos rfl]) (same.trans watched) inResult ?_
      intro n first
      rw [next] at first
      obtain ⟨c, stored, watched', -⟩ := soon n first
      exact orderly.one _ _ _ _ stored going watched' watched

theorem Clean.goesOn {after : List Entry} {netId : EntityID} (clean : Clean mask s after netId)
    (going : s.calls.lookup number = some call)
    (fades : registry.isDirty netId mask = true → s.registry.isDirty netId mask = true)
    (ends : ∀ rest, call.noted = true → call.remotes = netId :: rest → call.mask = mask →
      registry.isDirty netId mask = false) :
    Clean mask (goneOn s number call' registry) (after ++ more) netId := by
  cases clean with
  | marked flags there bit => exact .marked flags (List.mem_append_left _ there) bit
  | clean none =>
    refine .clean (Bool.eq_false_of_not_eq_true fun dirty => ?_)
    rw [fades dirty] at none
    cases none
  | clearing n c rest stored watched noted first =>
    by_cases here : n = number
    · subst here
      cases going.symm.trans stored
      exact .clean (ends rest noted first watched)
    · exact .clearing n c rest (by rw [goneOn_lookup, if_neg here]; exact stored) watched noted first

end GoesOn

/-! ### Reports -/

/-- After one more entry, two reports are two of the old ones, or the second one is new. -/
theorem Quiet.append (quiet : Quiet mask history) {last : Entry}
    (new : ∀ before between one two netId, history = before ++ .reported one mask netId :: between →
      last = .reported two mask netId → ∃ flags, .marked netId flags ∈ between ∧ flags &&& mask ≠ 0) :
    Quiet mask (history ++ [last]) := by
  intro before between after one two netId parts
  rcases History.split_last parts with ⟨none, -, -⟩ | ⟨rest, tail, old⟩
  · simp at none
  · rcases History.split_last tail.symm with ⟨-, same, final⟩ | ⟨after', -, old'⟩
    · exact new before between one two netId (by rw [same]; exact old) final.symm
    · exact quiet before between after' one two netId (by rw [← old']; exact old)

theorem Quiet.append_other (quiet : Quiet mask history) {last : Entry}
    (other : ∀ number netId, last ≠ .reported number mask netId) : Quiet mask (history ++ [last]) :=
  quiet.append fun _ _ _ two netId _ same => absurd same (other two netId)

/-! ### The steps -/

theorem account_start (registry : EntityRegistry) : Account mask [] { registry := registry } where
  numbers _ _ stored := by cases stored
  returned _ _ _ there := by cases there
  one _ _ _ _ stored := by cases stored
  apart _ _ stored := by cases stored
  noted _ _ _ _ stored := by cases stored
  due before after _ _ parts := by simp at parts
  clean before after _ _ parts := by simp at parts
  quiet before between after _ _ _ parts := by simp at parts

/-- A call goes on without a report. -/
theorem Account.goesOn {number : Nat} {call call' : ConsumeCall} {registry : EntityRegistry}
    (account : Account mask history s) (going : s.calls.lookup number = some call)
    (same : call'.mask = call.mask) (result : call'.result = call.result)
    (noted : call'.noted = false)
    (remote : ∀ id, registry.isRemote id = s.registry.isRemote id)
    (keeps : ∀ id, s.registry.isDirty id mask = true →
      (registry.isDirty id mask = true ∧ (call.mask = mask → id ∈ call.remotes → id ∈ call'.remotes))
        ∨ (call.mask = mask ∧ id ∈ call'.result))
    (fades : ∀ id, registry.isDirty id mask = true → s.registry.isDirty id mask = true)
    (ends : ∀ id rest, call.noted = true → call.remotes = id :: rest → call.mask = mask →
      registry.isDirty id mask = false) :
    Account mask history (goneOn s number call' registry) where
  toOrderly := by
    have orderly : Orderly mask (history ++ []) (goneOn s number call' registry) :=
      account.toOrderly.goesOn going same (fun _ _ now => by rw [noted] at now; cases now)
        (fun _ inside => by cases inside)
    rwa [List.append_nil] at orderly
  due before after netId flags parts bit := by
    have due : Due mask (goneOn s number call' registry) (after ++ []) netId :=
      (account.due before after netId flags parts bit).goesOn account.toOrderly going same
        (fun id has => by rw [result]; exact has) (remote netId) (keeps netId) rfl
    rwa [List.append_nil] at due
  clean before after other netId parts := by
    have clean : Clean mask (goneOn s number call' registry) (after ++ []) netId :=
      (account.clean before after other netId parts).goesOn going (fades netId) (ends netId)
    rwa [List.append_nil] at clean
  quiet := account.quiet

section First

variable {number : Nat} {call : ConsumeCall} {netId : EntityID} {rest : List EntityID}
  (account : Account mask history s) (going : s.calls.lookup number = some call)
  (list : call.remotes = netId :: rest)

include account going list

/-- The flags of the first entity are cleared. -/
theorem Account.clear (noted : call.noted = true) :
    Account mask history (goneOn s number { call with remotes := rest, noted := false }
      (s.registry.clearDirtyFlags netId call.mask)) := by
  have has := account.noted _ _ _ _ going noted list
  refine account.goesOn going rfl rfl rfl (fun _ => isRemote_clearDirtyFlags) (fun id dirty => ?_)
    (fun id dirty => ?_) (fun id rest' _ first watched => ?_)
  · by_cases here : id = netId ∧ call.mask = mask
    · exact .inr ⟨here.2, here.1 ▸ has⟩
    · refine .inl ⟨?_, fun watched inside => ?_⟩
      · rw [isDirty_clearDirtyFlags, dirty]
        rcases not_and_or.mp here with other | foreign
        · exact .inl other
        · exact .inr ((account.apart _ _ going).resolve_left foreign)
      · rw [list] at inside
        exact (List.mem_cons.mp inside).resolve_left fun same => here ⟨same, watched⟩
  · by_cases here : id = netId ∧ call.mask = mask
    · rw [here.1, here.2, not_isDirty_clearDirtyFlags] at dirty
      cases dirty
    · rw [isDirty_clearDirtyFlags] at dirty
      · exact dirty
      · rcases not_and_or.mp here with other | foreign
        · exact .inl other
        · exact .inr ((account.apart _ _ going).resolve_left foreign)
  · rw [list] at first
    rw [← (List.cons.inj first).1, watched]
    exact not_isDirty_clearDirtyFlags

/-- The first entity is passed over. -/
theorem Account.skip (noted : call.noted = false) (none : s.registry.isDirty netId call.mask = false) :
    Account mask history (goneOn s number { call with remotes := rest } s.registry) := by
  refine account.goesOn going rfl rfl noted (fun _ => rfl)
    (fun id dirty => .inl ⟨dirty, fun watched inside => ?_⟩) (fun _ dirty => dirty)
    (fun id rest' now => by rw [noted] at now; cases now)
  rw [list] at inside
  rcases List.mem_cons.mp inside with rfl | later
  · rw [watched, dirty] at none
    cases none
  · exact later

/-- The first entity is noted. -/
theorem Account.report (noted : call.noted = false) (dirty : s.registry.isDirty netId call.mask = true) :
    Account mask (history ++ [.reported number call.mask netId])
      (goneOn s number { call with noted := true, result := call.result ++ [netId] } s.registry) where
  toOrderly := by
    refine account.toOrderly.goesOn going rfl (fun id rest' _ first => ?_) (fun entry inside => ?_)
    · rw [show call.remotes = id :: rest' from first] at list
      rw [(List.cons.inj list).1]
      exact List.mem_append_right _ List.mem_cons_self
    · rw [List.mem_singleton.mp inside]
      exact fun _ _ _ differ => Entry.noConfusion differ
  due before after id flags parts bit := by
    rcases History.split_last parts with ⟨-, -, last⟩ | ⟨after, rfl, old⟩
    · cases last
    · exact (account.due before after id flags old bit).goesOn account.toOrderly going rfl
        (fun _ has => List.mem_append_left _ has) rfl
        (fun still => .inl ⟨still, fun _ inside => inside⟩) rfl
  clean before after other id parts := by
    rcases History.split_last parts with ⟨rfl, -, last⟩ | ⟨after, rfl, old⟩
    · cases last
      exact .clearing number { call with noted := true, result := call.result ++ [netId] } rest
        (by rw [goneOn_lookup, if_pos rfl]) rfl rfl list
    · exact (account.clean before after other id old).goesOn going (fun still => still)
        (fun _ now => by rw [noted] at now; cases now)
  quiet := by
    refine account.quiet.append fun before between one two id old last => ?_
    cases last
    cases account.clean before between one netId old with
    | marked flags there bit => exact ⟨flags, there, bit⟩
    | clean none =>
      rw [dirty] at none
      cases none
    | clearing n c rest' stored watched now first =>
      cases account.one _ _ _ _ stored going watched rfl
      cases going.symm.trans stored
      rw [noted] at now
      cases now

end First

/-- A call returns. -/
theorem Account.finish {number : Nat} {call : ConsumeCall} (account : Account mask history s)
    (going : s.calls.lookup number = some call) (list : call.remotes = []) :
    Account mask (history ++ [.returned number call.mask call.result])
      { s with calls := AList.erase number s.calls } := by
  have left {n : Nat} {c : ConsumeCall} (stored : (AList.erase number s.calls).lookup n = some c) :
      s.calls.lookup n = some c := by
    rw [AMap.lookup_erase_eq] at stored
    split_ifs at stored
    exact stored
  have stays {n : Nat} {c : ConsumeCall} (stored : s.calls.lookup n = some c) (differ : n ≠ number) :
      (AList.erase number s.calls).lookup n = some c := by
    rw [AMap.lookup_erase_eq, if_neg differ]
    exact stored
  constructor
  case toOrderly =>
    refine ⟨fun n c stored => account.numbers n c (left stored), fun n m result there => ?_,
      fun n c n' c' stored stored' => account.one n c n' c' (left stored) (left stored'),
      fun n c stored => account.apart n c (left stored),
      fun n c id rest stored => account.noted n c id rest (left stored)⟩
    rcases List.mem_append.mp there with before | now
    · obtain ⟨early, gone⟩ := account.returned _ _ _ before
      refine ⟨early, ?_⟩
      show (AList.erase number s.calls).lookup n = none
      rw [AMap.lookup_erase_eq, gone, ite_self]
    · cases List.mem_singleton.mp now
      refine ⟨account.numbers _ _ going, ?_⟩
      show (AList.erase number s.calls).lookup number = none
      rw [AMap.lookup_erase_eq, if_pos rfl]
  case due =>
    intro before after id flags parts bit
    rcases History.split_last parts with ⟨-, -, last⟩ | ⟨after, rfl, old⟩
    · cases last
    have next : nextCall mask (after ++ [.returned number call.mask call.result]) = nextCall mask after := by
      rw [nextCall_append]
      exact Option.or_none
    cases account.due before after id flags old bit with
    | answered n found there has soon =>
      exact .answered n found (List.mem_append_left _ there) has (by rw [next]; exact soon)
    | noted n c stored watched has soon =>
      by_cases here : n = number
      · subst here
        cases going.symm.trans stored
        refine .answered n call.result ?_ has fun m first => ?_
        · rw [watched]
          exact List.mem_append_right _ List.mem_cons_self
        · rw [next] at first
          exact le_of_eq (soon m first).symm
      · exact .noted n c (stays stored here) watched has (by rw [next]; exact soon)
    | waits dirty remote soon =>
      refine .waits dirty remote fun m first => ?_
      rw [next] at first
      obtain ⟨c, stored, watched, inside⟩ := soon m first
      refine ⟨c, stays stored ?_, watched, inside⟩
      rintro rfl
      cases going.symm.trans stored
      rw [list] at inside
      cases inside
  case clean =>
    intro before after other id parts
    rcases History.split_last parts with ⟨-, -, last⟩ | ⟨after, rfl, old⟩
    · cases last
    cases account.clean before after other id old with
    | marked flags there bit => exact .marked flags (List.mem_append_left _ there) bit
    | clean none => exact .clean none
    | clearing n c rest stored watched noted first =>
      refine .clearing n c rest (stays stored ?_) watched noted first
      rintro rfl
      cases going.symm.trans stored
      rw [list] at first
      cases first
  case quiet => exact account.quiet.append_other fun _ _ same => Entry.noConfusion same

/-! ### Marks -/

section Registry

variable {registry : EntityRegistry} {more after : List Entry} {netId : EntityID}

theorem Due.setRegistry (due : Due mask s after netId)
    (dirty : s.registry.isDirty netId mask = true → registry.isDirty netId mask = true)
    (remote : registry.isRemote netId = s.registry.isRemote netId) (silent : nextCall mask more = none) :
    Due mask { s with registry := registry } (after ++ more) netId := by
  have next : nextCall mask (after ++ more) = nextCall mask after := by
    rw [nextCall_append, silent, Option.or_none]
  cases due with
  | answered n found there has soon =>
    exact .answered n found (List.mem_append_left _ there) has (by rw [next]; exact soon)
  | noted n c stored watched has soon => exact .noted n c stored watched has (by rw [next]; exact soon)
  | waits isDirty isRemote soon =>
    exact .waits (dirty isDirty) (remote.trans isRemote) (by rw [next]; exact soon)

theorem Clean.setRegistry (clean : Clean mask s after netId)
    (fades : registry.isDirty netId mask = true → s.registry.isDirty netId mask = true
      ∨ ∃ flags, .marked netId flags ∈ more ∧ flags &&& mask ≠ 0) :
    Clean mask { s with registry := registry } (after ++ more) netId := by
  cases clean with
  | marked flags there bit => exact .marked flags (List.mem_append_left _ there) bit
  | clean none =>
    by_cases dirty : registry.isDirty netId mask = true
    · rcases fades dirty with before | ⟨flags, there, bit⟩
      · rw [none] at before
        cases before
      · exact .marked flags (List.mem_append_right _ there) bit
    · exact .clean (Bool.eq_false_of_not_eq_true dirty)
  | clearing n c rest stored watched noted first => exact .clearing n c rest stored watched noted first

end Registry

/-- An entity that is not registered is not marked. -/
theorem Account.mark_unknown {netId : EntityID} {flags : UInt16} (account : Account mask history s)
    (unknown : (s.registry.getInfo netId).isSome = false) :
    Account mask history { s with registry := s.registry.setDirtyFlags netId flags } := by
  have same (id : EntityID) :
      (s.registry.setDirtyFlags netId flags).isDirty id mask = s.registry.isDirty id mask := by
    rw [Bool.eq_iff_iff, isDirty_iff, isDirty_iff, dirtyFlags_setDirtyFlags, if_neg]
    rintro ⟨rfl, known⟩
    rw [unknown] at known
    cases known
  refine ⟨⟨account.numbers, account.returned, account.one, account.apart, account.noted⟩,
    fun before after id other parts bit => ?_, fun before after number id parts => ?_, account.quiet⟩
  · have due : Due mask { s with registry := s.registry.setDirtyFlags netId flags } (after ++ []) id :=
      (account.due before after id other parts bit).setRegistry (fun dirty => (same id).trans dirty)
        isRemote_setDirtyFlags rfl
    rwa [List.append_nil] at due
  · have clean : Clean mask { s with registry := s.registry.setDirtyFlags netId flags } (after ++ []) id :=
      (account.clean before after number id parts).setRegistry
        fun dirty => .inl ((same id).symm.trans dirty)
    rwa [List.append_nil] at clean

/-- An entity is marked. -/
theorem Account.mark {netId : EntityID} {flags : UInt16} (account : Account mask history s)
    (known : (s.registry.getInfo netId).isSome = true)
    (remote : flags &&& mask ≠ 0 → s.registry.isRemote netId = true) :
    Account mask (history ++ [.marked netId flags])
      { s with registry := s.registry.setDirtyFlags netId flags } := by
  refine ⟨⟨account.numbers, fun n m result there => ?_, account.one, account.apart, account.noted⟩,
    fun before after id other parts bit => ?_, fun before after number id parts => ?_,
    account.quiet.append_other fun _ _ same => Entry.noConfusion same⟩
  · rcases List.mem_append.mp there with before | now
    · exact account.returned n m result before
    · cases List.mem_singleton.mp now
  · rcases History.split_last parts with ⟨rfl, -, last⟩ | ⟨after, rfl, old⟩
    · cases last
      refine .waits (isDirty_setDirtyFlags (.inr ⟨rfl, known, bit⟩)) ?_ fun next first => by cases first
      exact isRemote_setDirtyFlags.trans (remote bit)
    · exact (account.due before after id other old bit).setRegistry
        (fun dirty => isDirty_setDirtyFlags (.inl dirty)) isRemote_setDirtyFlags rfl
  · rcases History.split_last parts with ⟨-, -, last⟩ | ⟨after, rfl, old⟩
    · cases last
    refine (account.clean before after number id old).setRegistry fun dirty => ?_
    by_cases here : id = netId ∧ flags &&& mask ≠ 0
    · exact .inr ⟨flags, by rw [here.1]; exact List.mem_cons_self, here.2⟩
    · rw [isDirty_setDirtyFlags_of_apart] at dirty
      · exact .inl dirty
      · exact (not_and_or.mp here).symm.imp_left not_not.mp

/-! ### The beginning of a call -/

theorem mem_getRemoteEntities_of_isRemote {registry : EntityRegistry} {id : EntityID}
    (remote : registry.isRemote id = true) : id ∈ registry.getRemoteEntities := by
  refine registry.mem_getRemoteEntities.mpr ?_
  unfold EntityRegistry.isRemote at remote
  unfold EntityRegistry.getInfo
  cases known : registry.entities.lookup id with
  | none =>
    rw [known] at remote
    cases remote
  | some info =>
    rw [known] at remote
    exact ⟨info, rfl, remote⟩

/-- A call begins. -/
theorem Account.begin {other : UInt16} (account : Account mask history s)
    (alone : if other = mask then ∀ number call, s.calls.lookup number = some call → call.mask ≠ mask
      else other &&& mask = 0) :
    Account mask (history ++ [.began s.begun other])
      { s with
        calls := AList.insert s.begun { mask := other, remotes := s.registry.getRemoteEntities } s.calls
        begun := s.begun + 1 } := by
  have stays {n : Nat} {c : ConsumeCall} (stored : s.calls.lookup n = some c) (new : ConsumeCall) :
      (AList.insert s.begun new s.calls).lookup n = some c := by
    rw [AMap.lookup_insert_eq, if_neg (ne_of_lt (account.numbers n c stored))]
    exact stored
  have next (after : List Entry) : nextCall mask (after ++ [.began s.begun other])
      = (nextCall mask after).or (if other = mask then some s.begun else none) := by
    rw [nextCall_append]
    congr 1
    show (List.findSome? _ [_]) = _
    rw [List.findSome?_singleton]
  constructor
  case toOrderly =>
    constructor
    case numbers =>
      intro n c stored
      rcases of_lookup_insert stored with ⟨rfl, -⟩ | ⟨-, before⟩
      · exact Nat.lt_succ_self _
      · exact Nat.lt_succ_of_lt (account.numbers n c before)
    case returned =>
      intro n m result there
      rcases List.mem_append.mp there with before | now
      · obtain ⟨early, gone⟩ := account.returned _ _ _ before
        refine ⟨Nat.lt_succ_of_lt early, ?_⟩
        show (AList.insert s.begun _ s.calls).lookup n = none
        rw [AMap.lookup_insert_eq, if_neg (ne_of_lt early)]
        exact gone
      · cases List.mem_singleton.mp now
    case one =>
      intro n c n' c' stored stored' watched watched'
      rcases of_lookup_insert stored with ⟨rfl, rfl⟩ | ⟨-, before⟩
      · rcases of_lookup_insert stored' with ⟨rfl, -⟩ | ⟨-, before'⟩
        · rfl
        · rw [if_pos watched] at alone
          exact absurd watched' (alone n' c' before')
      · rcases of_lookup_insert stored' with ⟨rfl, rfl⟩ | ⟨-, before'⟩
        · rw [if_pos watched'] at alone
          exact absurd watched (alone n c before)
        · exact account.one n c n' c' before before' watched watched'
    case apart =>
      intro n c stored
      rcases of_lookup_insert stored with ⟨rfl, rfl⟩ | ⟨-, before⟩
      · show other = mask ∨ other &&& mask = 0
        split_ifs at alone with same
        · exact .inl same
        · exact .inr alone
      · exact account.apart n c before
    case noted =>
      intro n c id rest stored noted first
      rcases of_lookup_insert stored with ⟨rfl, rfl⟩ | ⟨-, before⟩
      · cases noted
      · exact account.noted n c id rest before noted first
  case due =>
    intro before after id flags parts bit
    rcases History.split_last parts with ⟨-, -, last⟩ | ⟨after, rfl, old⟩
    · cases last
    by_cases same : other = mask
    · rw [if_pos same] at alone
      cases account.due before after id flags old bit with
      | answered n found there has soon =>
        refine .answered n found (List.mem_append_left _ there) has fun m first => ?_
        rw [next, if_pos same] at first
        rcases Option.or_eq_some_iff.mp first with early | ⟨-, late⟩
        · exact soon m early
        · rw [← Option.some.inj late]
          have inside : Entry.returned n mask found ∈ history := by
            rw [old]
            exact List.mem_append_right _ (List.mem_cons_of_mem _ there)
          exact le_of_lt (account.returned _ _ _ inside).1
      | noted n c stored watched has soon => exact absurd watched (alone n c stored)
      | waits dirty remote soon =>
        refine .waits dirty remote fun m first => ?_
        rw [next, if_pos same] at first
        rcases Option.or_eq_some_iff.mp first with early | ⟨-, late⟩
        · obtain ⟨c, stored, watched, -⟩ := soon m early
          exact absurd watched (alone m c stored)
        · rw [← Option.some.inj late]
          refine ⟨{ mask := other, remotes := s.registry.getRemoteEntities }, ?_, same,
            mem_getRemoteEntities_of_isRemote remote⟩
          show (AList.insert s.begun _ s.calls).lookup s.begun = _
          rw [AMap.lookup_insert_eq, if_pos rfl]
    · have still : nextCall mask (after ++ [.began s.begun other]) = nextCall mask after := by
        rw [next, if_neg same, Option.or_none]
      cases account.due before after id flags old bit with
      | answered n found there has soon =>
        exact .answered n found (List.mem_append_left _ there) has (by rw [still]; exact soon)
      | noted n c stored watched has soon =>
        exact .noted n c (stays stored _) watched has (by rw [still]; exact soon)
      | waits dirty remote soon =>
        refine .waits dirty remote fun m first => ?_
        rw [still] at first
        obtain ⟨c, stored, rest⟩ := soon m first
        exact ⟨c, stays stored _, rest⟩
  case clean =>
    intro before after number id parts
    rcases History.split_last parts with ⟨-, -, last⟩ | ⟨after, rfl, old⟩
    · cases last
    cases account.clean before after number id old with
    | marked flags there bit => exact .marked flags (List.mem_append_left _ there) bit
    | clean none => exact .clean none
    | clearing n c rest stored watched noted first =>
      exact .clearing n c rest (stays stored _) watched noted first
  case quiet => exact account.quiet.append_other fun _ _ same => Entry.noConfusion same

/-! ### Runs -/

/-- **One step keeps the account.** -/
theorem Account.step (account : Account mask history s) {event : Event} (guard : Guard mask s event) :
    Account mask (history ++ Consumers.machine.emit s event) (Consumers.machine.next s event) := by
  cases event with
  | mark netId flags =>
    show Account mask (history ++ if (s.registry.getInfo netId).isSome then [.marked netId flags] else []) _
    cases known : (s.registry.getInfo netId).isSome with
    | true => exact account.mark known guard
    | false =>
      simp only [Bool.false_eq_true, if_false, List.append_nil]
      exact account.mark_unknown known
  | consumeDirty other => exact account.begin guard
  | proceed number =>
    cases going : s.calls.lookup number with
    | none =>
      have idle : Consumers.machine.step s (.proceed number) = (s, []) := by
        simp only [Consumers.machine, going]
      unfold Machine.emit Machine.next
      rw [idle, List.append_nil]
      exact account
    | some call =>
      have acts : Consumers.machine.step s (.proceed number) = s.proceed number call := by
        simp only [Consumers.machine, going]
      unfold Machine.emit Machine.next
      rw [acts]
      unfold Consumers.proceed
      cases list : call.remotes with
      | nil => exact account.finish going list
      | cons netId rest =>
        dsimp only
        split_ifs with noted dirty
        · rw [List.append_nil]
          exact account.clear going list noted
        · have reported := account.report going list (Bool.eq_false_of_not_eq_true noted) dirty
          unfold goneOn at reported
          rw [list] at reported
          exact reported
        · rw [List.append_nil]
          exact account.skip going list (Bool.eq_false_of_not_eq_true noted)
            (Bool.eq_false_of_not_eq_true dirty)

theorem account_run (account : Account mask history s) {events : List Event}
    (along : Consumers.machine.Along (Guard mask) s events) :
    Account mask (history ++ Consumers.machine.outputs s events) (Consumers.machine.run s events) := by
  induction events generalizing history s with
  | nil =>
    show Account mask (history ++ []) s
    rw [List.append_nil]
    exact account
  | cons event rest ih =>
    have later := ih (account.step along.1) along.2
    rw [List.append_assoc] at later
    exact later

/-- A call leaves the flags outside its mask. -/
theorem keepsOthers (s : Consumers) (event : Event) : KeepsOthers mask s event := by
  rintro number call rfl going watched netId
  unfold Machine.next
  have acts : Consumers.machine.step s (.proceed number) = s.proceed number call := by
    simp only [Consumers.machine, going]
  rw [acts]
  unfold Consumers.proceed
  cases call.remotes with
  | nil => rfl
  | cons first rest =>
    dsimp only
    split_ifs
    · show (s.registry.clearDirtyFlags first call.mask).dirtyFlags netId &&& ~~~mask = _
      rw [dirtyFlags_clearDirtyFlags, watched]
      split_ifs
      · rw [UInt16.and_assoc, UInt16.and_self]
      · rfl
    · rfl
    · rfl

/-- **No dirty mark is lost** in a run in which marks for the mask are on remote entities, and calls
with the mask have no other one with a flag in common beside them. -/
theorem marks_reported (mask : UInt16) (registry : EntityRegistry) (events : List Event)
    (along : Consumers.machine.Along (Guard mask) { registry := registry } events) :
    Prompt mask (Consumers.machine.outputs { registry := registry } events)
      ∧ Quiet mask (Consumers.machine.outputs { registry := registry } events)
      ∧ Consumers.machine.Along (KeepsOthers mask) { registry := registry } events := by
  have account := account_run (account_start registry) along
  rw [List.nil_append] at account
  exact ⟨account.prompt, account.quiet,
    Machine.along_of_forall fun event _ state => keepsOthers state event⟩

/-- A registry with one remote entity, and one with one of this player. -/
def oneRemote : EntityRegistry := ({} : EntityRegistry).registerRemote 7 0 2 {}
def oneOwn : EntityRegistry := ({} : EntityRegistry).register 0x10000 0 1

/-- An entity is marked again after it is noted and before its flags are cleared. -/
def markedBetween : List Event :=
  [.mark 7 1, .consumeDirty 1, .proceed 0, .mark 7 1, .proceed 0, .proceed 0]

theorem marks_reported_between :
    Consumers.machine.outputs { registry := oneRemote } markedBetween
        = [.marked 7 1, .began 0 1, .reported 0 1 7, .marked 7 1, .returned 0 1 [7]]
      ∧ Prompt 1 (Consumers.machine.outputs { registry := oneRemote } markedBetween)
      ∧ Quiet 1 (Consumers.machine.outputs { registry := oneRemote } markedBetween)
      ∧ Consumers.machine.Along (KeepsOthers 1) { registry := oneRemote } markedBetween := by
  have along : Consumers.machine.Along (Guard 1) { registry := oneRemote } markedBetween := by
    refine ⟨fun _ => by decide +kernel, ?_, trivial, fun _ => by decide +kernel, trivial, trivial, trivial⟩
    exact fun number call stored => by cases stored
  exact ⟨by decide +kernel, marks_reported 1 oneRemote markedBetween along⟩

/-- A mark on an entity of this player is never reported; and of two calls side by side, both report one
mark. -/
theorem marks_reported_fails :
    ¬ Prompt 1 (Consumers.machine.outputs { registry := oneOwn }
        [.mark 0x10000000 1, .consumeDirty 1, .proceed 0])
      ∧ ¬ Quiet 1 (Consumers.machine.outputs { registry := oneRemote }
        [.mark 7 1, .consumeDirty 1, .consumeDirty 1, .proceed 0, .proceed 1]) := by
  refine ⟨fun prompt => ?_, fun quiet => ?_⟩
  · have history : Consumers.machine.outputs { registry := oneOwn }
        [.mark 0x10000000 1, .consumeDirty 1, .proceed 0]
          = [.marked 0x10000000 1, .began 0 1, .returned 0 1 []] := by decide +kernel
    rw [history] at prompt
    obtain ⟨number, -, found, there, has⟩ := prompt [] _ 0x10000000 1 rfl (by decide) 0 [] rfl
      (List.mem_cons_of_mem _ List.mem_cons_self)
    simp only [List.mem_cons, reduceCtorEq, Entry.returned.injEq, List.not_mem_nil, or_false,
      false_or] at there
    rw [there.2.2] at has
    cases has
  · have history : Consumers.machine.outputs { registry := oneRemote }
        [.mark 7 1, .consumeDirty 1, .consumeDirty 1, .proceed 0, .proceed 1]
          = [.marked 7 1, .began 0 1, .began 1 1, .reported 0 1 7, .reported 1 1 7] := by decide +kernel
    obtain ⟨flags, there, -⟩ := quiet [.marked 7 1, .began 0 1, .began 1 1] [] [] 0 1 7 history
    cases there

end DirtyFlags

end KenshiMP
