import VoVe.TransferRunRule
import VoVe.TransferSettles

set_option autoImplicit false

namespace VoVe.TransferRecords
open ByteCodec PosixPath DestinationFilename TransferTransaction
open FileTransferCoordinator TransferShape
open TransferCopyNames TransferWorld TransferAccounts

inductive Assigned (destination : Path) : Path → Prop where
 | own : Assigned destination destination
 | copy (name : Path) (ordinal : ℕ) (h:Assigned destination name):
  Assigned destination (copyDestinationPath name ordinal)

variable (prepared : FileTransferTransaction)

def UserKey (key : Bytes) : Prop:=
 isTransferFilename (⟨key⟩ : Path).filename.native = false ∧
  ∀i < prepared.items.length,key≠sourceKey (itemAt prepared i)

def preparedIdentity (index : ℕ) : Bytes:=
 identityOf (itemAt prepared index).currentSourceSnapshot

/-- The step that may have happened to an item. -/
def stepOn (t : FileTransferTransaction) (step : FileTransferStep) (index : ℕ) : FileTransferStep:=
 if index = t.activeIndex.toNat then step else .none

def CleanupStep (step : FileTransferStep) : Prop:=
 step = .none ∨ step = .restoreStagedSource ∨ step = .cleanupTemp ∨
  step = .restoreOverwriteDestination

section Records
variable (prepared : FileTransferTransaction) (start : Files)

structure Continues (t : FileTransferTransaction) : Prop where
 kind : t.kind=prepared.kind
 operationId : t.operationId=prepared.operationId
 length : t.items.length=prepared.items.length
 sources : ∀i<t.items.length,(itemAt t i).source=(itemAt prepared i).source
 assigned : ∀i<t.items.length, Assigned (itemAt prepared i).destination (itemAt t i).destination

structure Accounts (t : FileTransferTransaction) (step : FileTransferStep) (files : Files)
  (approved : List (Bytes × Bytes)) : Prop where
 continues : Continues prepared t
 items : ∀i<t.items.length,ItemAccounts start files approved (preparedIdentity prepared i)
  t.kind t.phase (stepOn t step i) (itemAt t i)
 others : ∀key object,start key=some object → UserKey prepared key →
  (∀i<t.items.length,key≠destinationKey (itemAt t i)) → files key=some object
 cleaning : t.phase=.prepublishCleanup → CleanupStep step

end Records

section Changes
variable {prepared : FileTransferTransaction} {start files after : Files}
 {approved approved' : List (Bytes × Bytes)} {t t' : FileTransferTransaction}
 {step step' : FileTransferStep} {n index : ℕ} {item' : FileTransferItem}

@[simp] lemma stepOn_none (t : FileTransferTransaction) (i : ℕ) : stepOn t .none i=.none:=by
 unfold stepOn
 split
 · rfl
 · rfl

lemma stepOn_index (h:step≠.none → t.activeIndex.toNat=n) : stepOn t step n=step:=by
 unfold stepOn
 split
 · rfl
 · next hne =>
   by_cases hstep:step=.none
   · exact hstep.symm
   · exact absurd (h hstep).symm hne

lemma stepOn_other (h:step≠.none → t.activeIndex.toNat=n) {i : ℕ} (hi:i≠n):
 stepOn t step i=.none:=by
 unfold stepOn
 split
 · next heq =>
   by_contra hstep
   exact hi (heq.trans (h hstep))
 · rfl

lemma itemAt_set (hinside:n<t.items.length)
 (hitems:t'.items=t.items.set n item') : itemAt t' n=item':=by
 have hlength:n<t'.items.length:=by simpa [hitems] using hinside
 rw [itemAt_eq hlength]
 simp [hitems]

lemma itemAt_set_other (hitems:t'.items=t.items.set n item') {i : ℕ} (hi:i≠n)
 (hinside:i<t.items.length) : itemAt t' i=itemAt t i:=by
 have hlength:i<t'.items.length:=by simpa [hitems] using hinside
 rw [itemAt_eq hlength,itemAt_eq hinside]
 simp [hitems,List.getElem_set_ne hi.symm]

section
variable (h:Accounts prepared start t step files approved)
include h

lemma Accounts.settle
 (hinside:n<t.items.length) (hitems:t'.items=t.items.set n item')
 (hindex:step≠.none → t.activeIndex.toNat=n)
 (hindex':step'≠.none → t'.activeIndex.toNat=n) (hkind:t'.kind=t.kind)
 (hoperation:t'.operationId=t.operationId)
 (hphase:t'.phase≠.prepublishCleanup → t.phase≠.prepublishCleanup)
 (hcleaning:t'.phase=.prepublishCleanup → CleanupStep step')
 (hsource:item'.source=(itemAt t n).source)
 (hdestination:item'.destination=(itemAt t n).destination)
 (hitem:ItemAccounts start files approved (preparedIdentity prepared n) t.kind t.phase
   step (itemAt t n) →
  ItemAccounts start files approved (preparedIdentity prepared n) t.kind t'.phase
   step' item'):
 Accounts prepared start t' step' files approved:=by
 have hlength:t'.items.length=t.items.length:=by simp [hitems]
 have hsame:∀i<t'.items.length,(itemAt t' i).source=(itemAt t i).source ∧
   (itemAt t' i).destination=(itemAt t i).destination:=by
  intro i hi
  by_cases hne:i=n
  · subst hne
    rw [itemAt_set hinside hitems]
    exact ⟨hsource,hdestination⟩
  · rw [itemAt_set_other hitems hne (by omega)]
    exact ⟨rfl,rfl⟩
 constructor
 · refine ⟨hkind.trans h.continues.kind,hoperation.trans h.continues.operationId,
    hlength.trans h.continues.length,?_,?_⟩
   · intro i hi
     rw [(hsame i hi).1]
     exact h.continues.sources i (by omega)
   · intro i hi
     rw [(hsame i hi).2]
     exact h.continues.assigned i (by omega)
 · intro i hi
   have hitem₀:=h.items i (by omega)
   rw [hkind]
   by_cases hne:i=n
   · subst hne
     rw [stepOn_index hindex] at hitem₀
     rw [stepOn_index hindex',itemAt_set hinside hitems]
     exact hitem hitem₀
   · rw [stepOn_other hindex hne] at hitem₀
     rw [stepOn_other hindex' hne,itemAt_set_other hitems hne (by omega)]
     exact hitem₀.enter hphase
 · intro key object hobject huser hnot
   apply h.others key object hobject huser
   intro i hi
   have hi':i<t'.items.length:=by omega
   have hne:=hnot i hi'
   unfold destinationKey at hne
   rw [(hsame i hi').2] at hne
   exact hne
 · exact hcleaning

lemma Accounts.restate
 (hitems:t'.items=t.items) (hkind:t'.kind=t.kind)
 (hoperation:t'.operationId=t.operationId)
 (hphase:t'.phase≠.prepublishCleanup → t.phase≠.prepublishCleanup)
 (hcleaning:t'.phase=.prepublishCleanup → CleanupStep step')
 (hsteps:∀i<t.items.length,
  ItemAccounts start files approved (preparedIdentity prepared i) t.kind t.phase
   (stepOn t step i) (itemAt t i) →
  ItemAccounts start files approved (preparedIdentity prepared i) t.kind t.phase
   (stepOn t' step' i) (itemAt t i)):
 Accounts prepared start t' step' files approved:=by
 have hitem:∀i,itemAt t' i=itemAt t i:=fun i=>by rw [itemAt,hitems,itemAt]
 constructor
 · refine ⟨hkind.trans h.continues.kind,hoperation.trans h.continues.operationId,
    (congrArg List.length hitems).trans h.continues.length,?_,?_⟩
   · intro i hi
     rw [hitem]
     exact h.continues.sources i (hitems ▸ hi)
   · intro i hi
     rw [hitem]
     exact h.continues.assigned i (hitems ▸ hi)
 · intro i hi
   rw [hitem,hkind]
   exact (hsteps i (hitems ▸ hi) (h.items i (hitems ▸ hi))).enter hphase
 · intro key object hobject huser hnot
   apply h.others key object hobject huser
   intro i hi
   have hne:=hnot i (hitems ▸ hi)
   rw [hitem] at hne
   exact hne
 · exact hcleaning

lemma Accounts.alike
 (hitems:t'.items=t.items) (hkind:t'.kind=t.kind)
 (hoperation:t'.operationId=t.operationId) (hphase:t'.phase=t.phase)
 (hindex:t'.activeIndex=t.activeIndex):
 Accounts prepared start t' step files approved:=by
 apply h.restate hitems hkind hoperation
 · rw [hphase]
   exact id
 · rw [hphase]
   exact h.cleaning
 · intro i _ hitem
   rw [stepOn,hindex]
   exact hitem

end

lemma Accounts.resting (h:Accounts prepared start t .none files approved)
 (hitems:t'.items=t.items) (hkind:t'.kind=t.kind)
 (hoperation:t'.operationId=t.operationId)
 (hphase:t'.phase≠.prepublishCleanup → t.phase≠.prepublishCleanup):
 Accounts prepared start t' .none files approved:=by
 apply h.restate hitems hkind hoperation hphase
 · exact fun _=>.inl rfl
 · intro i _ hitem
   rw [stepOn_none] at hitem ⊢
   exact hitem

lemma Accounts.reworked (h:Accounts prepared start t .none files approved)
 (hinside:n<t.items.length) (hitems:t'.items=t.items.set n item')
 (hkind:t'.kind=t.kind) (hoperation:t'.operationId=t.operationId)
 (hphase:t'.phase≠.prepublishCleanup → t.phase≠.prepublishCleanup)
 (hsource:item'.source=(itemAt t n).source)
 (hdestination:item'.destination=(itemAt t n).destination)
 (hitem:ItemAccounts start files approved (preparedIdentity prepared n) t.kind t.phase
   .none (itemAt t n) →
  ItemAccounts start files approved (preparedIdentity prepared n) t.kind t'.phase
   .none item'):
 Accounts prepared start t' .none files approved:=
 h.settle hinside hitems (fun hno=>absurd rfl hno) (fun hno=>absurd rfl hno) hkind hoperation
  hphase (fun _=>.inl rfl) hsource hdestination hitem

lemma Accounts.approve (h:Accounts prepared start t step files approved)
 (hmore:∀given∈approved,given∈approved'):
 Accounts prepared start t step files approved':=
 ⟨h.continues,fun i hi=>(h.items i hi).approve hmore,h.others,h.cleaning⟩

end Changes

section Paths
variable {t : FileTransferTransaction} {n index : ℕ} (item : FileTransferItem)

lemma source_owned : sourceKey item∈ownedPaths item:=by
 simp [ownedPaths,sourceKey,transferPathKey]

lemma staged_owned : stagedKey item∈ownedPaths item:=by
 simp [ownedPaths,stagedKey,transferPathKey]

lemma temp_owned : tempKey item∈ownedPaths item:=by
 simp [ownedPaths,tempKey,transferPathKey]

lemma backup_owned : backupKey item∈ownedPaths item:=by
 simp [ownedPaths,backupKey,transferPathKey]

lemma destination_owned : destinationKey item∈ownedPaths item:=by
 simp [ownedPaths,destinationKey,transferPathKey]

section
variable (h:TransferSound t)
include h

lemma keysApart (hinside:n<t.items.length) : KeysApart (itemAt t n):=by
 have hpaths:=(h.paths n hinside).paths
 simp only [itemPathsValid,Bool.and_eq_true,decide_eq_true_eq] at hpaths
 rw [itemAt_eq hinside]
 exact keysApart_of_nodup hpaths.2.1

lemma owned_apart (hinside:n<t.items.length) {i : ℕ}
 (hi:i<t.items.length) (hne:i≠n) {key : Bytes}
 (hkey:key∈ownedPaths (itemAt t i)) : key∉ownedPaths (itemAt t n):=by
 rw [itemAt_eq hi] at hkey
 rw [itemAt_eq hinside]
 obtain hlt | hgt:=Nat.lt_or_gt_of_ne hne
 · intro hother
   exact owned_before h hinside hlt hother hkey
 · exact owned_before h hi hgt hkey

lemma pathsOwn (hinside:n<t.items.length) : PathsOwn t.operationId n (itemAt t n):=by
 have hown:=pathsOwn_of_sound (h.paths n hinside)
 rwa [List.length_take_of_le (by omega),←itemAt_eq hinside] at hown

lemma pathsSound (hinside:n<t.items.length):
 PathsSound t.operationId (t.items.take n) (itemAt t n):=by
 rw [itemAt_eq hinside]
 exact h.paths n hinside

lemma transferNamed (hinside:n<t.items.length) {key : Bytes}
 (hkey:key=stagedKey (itemAt t n) ∨ key=tempKey (itemAt t n) ∨ key=backupKey (itemAt t n)):
 isTransferFilename (⟨key⟩ : Path).filename.native=true:=by
 have hown:=pathsOwn h hinside
 have hsound:=pathsSound h hinside
 obtain rfl | rfl | rfl:=hkey
 · rw [stagedKey,key_filename hown.stagedAbsolute hsound.stagedSource]
   exact hown.transferName (.inl rfl)
 · rw [tempKey,key_filename hown.tempAbsolute hsound.tempDestination]
   exact hown.transferName (.inr (.inl rfl))
 · rw [backupKey,key_filename hown.backupAbsolute hsound.overwriteBackup]
   exact hown.transferName (.inr (.inr rfl))

end

lemma userKey_destination {prepared : FileTransferTransaction} (h:TransferSound t)
 (hcontinues:Continues prepared t) (hinside:n<t.items.length):
 UserKey prepared (destinationKey (itemAt t n)):=by
 have hown:=pathsOwn h hinside
 have hsound:=pathsSound h hinside
 constructor
 · rw [destinationKey,key_filename hown.absolute hsound.destination]
   exact hown.plain
 · intro i hi hsame
   have hi':i<t.items.length:=by
    rw [hcontinues.length]
    exact hi
   have hsource:sourceKey (itemAt prepared i)=sourceKey (itemAt t i):=by
    unfold sourceKey
    rw [hcontinues.sources i hi']
   by_cases hne:i=n
   · subst hne
     exact (keysApart h hinside).sourceDestination (hsource ▸ hsame.symm)
   · apply owned_apart h hinside hi' hne (source_owned _)
     rw [←hsource,←hsame]
     exact destination_owned _

end Paths

section Effects
variable {prepared : FileTransferTransaction} {start files after : Files}
 {approved : List (Bytes × Bytes)} {t : FileTransferTransaction} {step : FileTransferStep}
 {n index : ℕ}

/-- Nothing changes but at the paths of one item. -/
def OwnOnly (item : FileTransferItem) (files after : Files) : Prop:=
 ∀key ∉ ownedPaths item,after key = files key

lemma Accounts.effect (h:Accounts prepared start t .none files approved)
 (hsound:TransferSound t) (hcurrent:Current t n)
 (hindex:step≠.none → t.activeIndex.toNat=n)
 (hcleaning:t.phase=.prepublishCleanup → CleanupStep step)
 (hown:OwnOnly (itemAt t n) files after)
 (hitem:ItemAccounts start files approved (preparedIdentity prepared n) t.kind t.phase
   .none (itemAt t n) →
  ItemAccounts start after approved (preparedIdentity prepared n) t.kind t.phase
   step (itemAt t n)):
 Accounts prepared start t step after approved:=by
 have hinside:=hcurrent.inside
 refine ⟨h.continues,?_,?_,hcleaning⟩
 · intro i hi
   have hitem₀:=h.items i hi
   rw [stepOn_none] at hitem₀
   by_cases hne:i=n
   · subst hne
     rw [stepOn_index hindex]
     exact hitem hitem₀
   · rw [stepOn_other hindex hne]
     have hstate:(itemAt t i).destinationState≠.tempReserved ∧
       (itemAt t i).destinationState≠.contentReady:=by
      rw [itemAt_eq hi]
      obtain hlt | hgt:=Nat.lt_or_gt_of_ne hne
      · have hfinal:=hcurrent.before i hi hlt
        simp only [finalItem,decide_eq_true_eq] at hfinal
        rw [hfinal.1]
        exact ⟨(by simp),(by simp)⟩
      · rw [pristine_absent (hsound.later hcurrent hi hgt)]
        exact ⟨(by simp),(by simp)⟩
     have hsame:∀key∈ownedPaths (itemAt t i),after key=files key:=
      fun key hkey=>hown key (owned_apart hsound hinside hi hne hkey)
     apply hitem₀.elsewhere hstate.1 hstate.2
     · exact hsame _ (source_owned _)
     · exact hsame _ (staged_owned _)
     · exact hsame _ (backup_owned _)
     · exact hsame _ (destination_owned _)
 · intro key object hobject huser hnot
   rw [hown key ?_]
   · exact h.others key object hobject huser hnot
   · intro hkey
     have hplain:=huser.1
     simp only [ownedPaths,List.mem_cons,List.not_mem_nil,or_false] at hkey
     obtain hsource | hstaged | htemp | hbackup | hdestination:=hkey
     · apply huser.2 n (by rw [←h.continues.length]; exact hinside)
       rw [hsource,sourceKey,←h.continues.sources n hinside]
       rfl
     · rw [transferNamed hsound hinside (.inl hstaged)] at hplain
       cases hplain
     · rw [transferNamed hsound hinside (.inr (.inl htemp))] at hplain
       cases hplain
     · rw [transferNamed hsound hinside (.inr (.inr hbackup))] at hplain
       cases hplain
     · exact hnot n hinside hdestination

end Effects

end VoVe.TransferRecords
