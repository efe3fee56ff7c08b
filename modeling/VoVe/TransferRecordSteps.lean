import VoVe.TransferRecords

set_option autoImplicit false

namespace VoVe.TransferRecordSteps
open ByteCodec PosixPath FileOperation TransferTransaction
open FileTransferProtocol FileTransferCoordinator ObjectDirectory TransferUpdates
open TransferRunRule TransferWorld TransferAccounts TransferEffects
open TransferSettles TransferRecords
open OperationRequest (RenameRequest DeleteRequest)

def RenameStep (step : FileTransferStep) : Prop:=
 step = .atomicMove ∨ step = .stageSource ∨ step = .publishTemp ∨ step = .restoreStagedSource ∨
  step = .evacuateOverwriteDestination ∨ step = .restoreOverwriteDestination

def DeleteStep (step : FileTransferStep) : Prop:=
 step = .deleteSource ∨ step = .cleanupTemp ∨ step = .cleanupOverwriteDestination

/-- What the steps of a run keep to beyond what the validator asks. -/
structure Ordered (t : FileTransferTransaction) (index : ℕ) (step : FileTransferStep) : Prop where
 cleaning : t.phase=.prepublishCleanup → CleanupStep step
 plain : step=.atomicMove ∨ step=.publishTemp → (itemAt t index).overwriteState≠.authorized

variable {prepared : FileTransferTransaction} {start files after : Files}
 {approved : List (Bytes × Bytes)} {t : FileTransferTransaction} {step : FileTransferStep}
 {n index : ℕ}

lemma ownOnly_renames {item : FileTransferItem} {object : FileObject} {source destination : Bytes}
 (hmoves:Renames object source destination files after) (hsource:source∈ownedPaths item)
 (hdestination:destination∈ownedPaths item) : OwnOnly item files after:=by
 intro key hkey
 apply hmoves.elsewhere
 · rintro rfl
   exact hkey hsource
 · rintro rfl
   exact hkey hdestination

lemma ownOnly_removes {item : FileTransferItem} {object : FileObject} {name : Bytes}
 (hremoves:Removes object name files after) (hname:name∈ownedPaths item):
 OwnOnly item files after:=by
 intro key hkey
 apply hremoves.elsewhere
 rintro rfl
 exact hkey hname

lemma Accounts.begun (h:Accounts prepared start t .none files approved)
 (hengaged:Engaged t n step) (hactive:t.activeIndex.toNat=n)
 (hordered:Ordered t n step) : Accounts prepared start t step files approved:=by
 apply h.effect hengaged.sound hengaged.current (fun _=>hactive) hordered.cleaning
 · exact fun _ _=>rfl
 · exact fun hitem=>hitem.begun hordered.plain

lemma not_replacing (hordered:Ordered t n step):
 replacing (renameRequest t n step).mode=false:=by
 cases step with
 | atomicMove=>
  have hplain:=hordered.plain (.inl rfl)
  simp [renameRequest,replaces,hplain,replacing]
 | publishTemp=>
  have hplain:=hordered.plain (.inr rfl)
  simp [renameRequest,replaces,hplain,replacing]
 | _=>rfl

lemma rename_effect (h:Accounts prepared start t .none files approved)
 (hengaged:Engaged t n step) (hactive:t.activeIndex.toNat=n)
 (hordered:Ordered t n step) (hrename:RenameStep step) {use : RenameUse}
 (hleaves:RenameLeaves files (renameRequest t n step) use after):
 Accounts prepared start t step after approved:=by
 have happart:=keysApart hengaged.sound hengaged.current.inside
 have hfits:=hengaged.fits
 rw [itemStepMatches,hengaged.active] at hfits
 cases hleaves with
 | kept=>exact Accounts.begun h hengaged hactive hordered
 | replaced object huse hmode=>
  rw [not_replacing hordered] at hmode
  cases hmode
 | moved object _ huse hexpected hmoves=>
  apply h.effect hengaged.sound hengaged.current (fun _=>hactive) hordered.cleaning
  · obtain rfl | rfl | rfl | rfl | rfl | rfl:=hrename
    · exact ownOnly_renames hmoves (source_owned _) (destination_owned _)
    · exact ownOnly_renames hmoves (source_owned _) (staged_owned _)
    · exact ownOnly_renames hmoves (temp_owned _) (destination_owned _)
    · exact ownOnly_renames hmoves (staged_owned _) (source_owned _)
    · exact ownOnly_renames hmoves (destination_owned _) (backup_owned _)
    · exact ownOnly_renames hmoves (backup_owned _) (destination_owned _)
  · intro hitem
    obtain rfl | rfl | rfl | rfl | rfl | rfl:=hrename
    · simp only [decide_eq_true_eq] at hfits
      obtain ⟨-,-,hlocation,habsent,-⟩:=hfits
      have hunpublished:(itemAt t n).destinationState≠.published:=by simp [habsent]
      refine ⟨source_movedAtomically hitem.source happart hlocation hunpublished hexpected hmoves,
       content_renamed hitem.content hmoves (fun _=>happart.sourceTemp)
        fun hpublished=>absurd hpublished hunpublished,
       replaced_filled hitem.replaced hmoves.free ?_ (hordered.plain (.inl rfl))⟩
      exact hmoves.elsewhere happart.sourceBackup.symm happart.backupDestination
    · simp only [decide_eq_true_eq] at hfits
      obtain ⟨-,hstrategy,hlocation,habsent⟩:=hfits
      have hunpublished:(itemAt t n).destinationState≠.published:=by simp [habsent]
      refine ⟨source_staged hitem.source hlocation hstrategy hunpublished hexpected hmoves,
       content_renamed hitem.content hmoves (fun _=>happart.sourceTemp)
        fun hpublished=>absurd hpublished hunpublished,
       hitem.replaced.frame ?_ ?_ (by simp)⟩
      · exact hmoves.elsewhere happart.sourceDestination.symm happart.stagedDestination.symm
      · exact hmoves.elsewhere happart.sourceBackup.symm happart.stagedBackup.symm
    · simp only [decide_eq_true_eq] at hfits
      obtain ⟨-,hready,-⟩:=hfits
      refine ⟨hitem.source.frame ?_ ?_, content_renamed hitem.content hmoves ?_ ?_,
       replaced_filled hitem.replaced hmoves.free ?_ (hordered.plain (.inr rfl))⟩
      · exact hmoves.elsewhere happart.sourceTemp happart.sourceDestination
      · exact hmoves.elsewhere happart.stagedTemp happart.stagedDestination
      · intro hreserved
        rw [hready] at hreserved
        cases hreserved
      · intro hpublished
        rw [hready] at hpublished
        cases hpublished
      · exact hmoves.elsewhere happart.tempBackup.symm happart.backupDestination
    · simp only [decide_eq_true_eq] at hfits
      obtain ⟨-,hstrategy,hlocation,hunpublished,-⟩:=hfits
      refine ⟨source_restored hitem.source hlocation hstrategy hmoves,
       content_renamed hitem.content hmoves (fun _=>happart.stagedTemp)
        fun hpublished=>absurd hpublished hunpublished,
       hitem.replaced.frame ?_ ?_ (by simp)⟩
      · exact hmoves.elsewhere happart.stagedDestination.symm happart.sourceDestination.symm
      · exact hmoves.elsewhere happart.stagedBackup.symm happart.sourceBackup.symm
    · simp only [decide_eq_true_eq] at hfits
      obtain ⟨-,hauthorized,hunpublished⟩:=hfits
      refine ⟨hitem.source.frame ?_ ?_,
       content_renamed hitem.content hmoves (fun _=>happart.tempDestination.symm)
        fun hpublished=>absurd hpublished hunpublished,
       replaced_evacuated hitem.replaced hauthorized hexpected hmoves⟩
      · exact hmoves.elsewhere happart.sourceDestination happart.sourceBackup
      · exact hmoves.elsewhere happart.stagedDestination happart.stagedBackup
    · simp only [decide_eq_true_eq] at hfits
      obtain ⟨-,-,hstate,hunpublished⟩:=hfits
      refine ⟨hitem.source.frame ?_ ?_,
       content_renamed hitem.content hmoves (fun _=>happart.tempBackup.symm)
        fun hpublished=>absurd hpublished hunpublished,
       replaced_restored hitem.replaced hstate hmoves⟩
      · exact hmoves.elsewhere happart.sourceBackup happart.sourceDestination
      · exact hmoves.elsewhere happart.stagedBackup happart.stagedDestination

lemma finished_of_cleanup (hfits:itemStepMatches t (itemAt t n)=true)
 (hactive:t.activeStep=.cleanupOverwriteDestination):
 Finished t.kind (itemAt t n) ∧ (itemAt t n).overwriteState=.evacuated:=by
 rw [itemStepMatches,hactive] at hfits
 simp only [decide_eq_true_eq] at hfits
 obtain ⟨-,hstate,hpublished,hfinal⟩:=hfits
 exact ⟨⟨hpublished,decide_eq_true hfinal⟩,hstate⟩

lemma delete_effect (h:Accounts prepared start t .none files approved)
 (hengaged:Engaged t n step) (hactive:t.activeIndex.toNat=n)
 (hordered:Ordered t n step) (hdelete:DeleteStep step) {use : DeleteUse}
 (hleaves:DeleteLeaves files (deleteRequest t n step) use after):
 Accounts prepared start t step after approved:=by
 have happart:=keysApart hengaged.sound hengaged.current.inside
 have hfits:=hengaged.fits
 cases hleaves with
 | kept=>exact Accounts.begun h hengaged hactive hordered
 | removed object _ huse hexpected hguard hremoves=>
  apply h.effect hengaged.sound hengaged.current (fun _=>hactive) hordered.cleaning
  · obtain rfl | rfl | rfl:=hdelete
    · exact ownOnly_removes hremoves (staged_owned _)
    · exact ownOnly_removes hremoves (temp_owned _)
    · exact ownOnly_removes hremoves (backup_owned _)
  · intro hitem
    obtain rfl | rfl | rfl:=hdelete
    · rw [itemStepMatches,hengaged.active] at hfits
      simp only [decide_eq_true_eq] at hfits
      obtain ⟨-,hstrategy,hlocation,-⟩:=hfits
      refine ⟨source_deleted hitem.source happart hlocation hstrategy hremoves,
       content_removed hitem.content hremoves happart.stagedDestination,
       hitem.replaced.frame ?_ ?_ (by simp)⟩
      · exact hremoves.elsewhere happart.stagedDestination.symm
      · exact hremoves.elsewhere happart.stagedBackup.symm
    · refine ⟨hitem.source.frame ?_ ?_,
       content_removed hitem.content hremoves happart.tempDestination,
       hitem.replaced.frame ?_ ?_ (by simp)⟩
      · exact hremoves.elsewhere happart.sourceTemp
      · exact hremoves.elsewhere happart.stagedTemp
      · exact hremoves.elsewhere happart.tempDestination.symm
      · exact hremoves.elsewhere happart.tempBackup.symm
    · obtain ⟨hfinished,hstate⟩:=finished_of_cleanup hfits hengaged.active
      refine ⟨hitem.source.frame ?_ ?_,
       content_removed hitem.content hremoves happart.backupDestination,
       replaced_removed hitem.replaced happart hstate hfinished hremoves⟩
      · exact hremoves.elsewhere happart.sourceBackup
      · exact hremoves.elsewhere happart.stagedBackup

lemma streamLeaves_temp {request : FileTransferStreamRequest} {owned : Bytes}
 (h:StreamLeaves files request owned after):
 ∃ held,after=Function.update files (transferPathKey request.tempDestination) held:=by
 cases h with
 | kept=>exact ⟨_,(Function.update_eq_self _ _).symm⟩
 | created=>exact ⟨_,rfl⟩
 | written=>exact ⟨_,rfl⟩
 | removed=>exact ⟨_,rfl⟩

lemma stream_effect (h:Accounts prepared start t .none files approved)
 (hengaged:Engaged t n step) (hactive:t.activeIndex.toNat=n)
 (hordered:Ordered t n step) (hstream:step=.reserveTemp ∨ step=.streamTemp)
 {held : Option FileObject}
 (hafter:after=Function.update files (tempKey (itemAt t n)) held):
 Accounts prepared start t step after approved:=by
 have happart:=keysApart hengaged.sound hengaged.current.inside
 have hfits:=hengaged.fits
 rw [itemStepMatches,hengaged.active] at hfits
 have hready:(itemAt t n).destinationState≠.contentReady:=by
  obtain rfl | rfl:=hstream
  · simp only [decide_eq_true_eq] at hfits
    simp [hfits.2.1]
  · simp only [decide_eq_true_eq] at hfits
    simp [hfits.2]
 have helsewhere:∀ {key : Bytes},key≠tempKey (itemAt t n) → after key=files key:=by
  intro key hne
  rw [hafter,Function.update_of_ne hne]
 apply h.effect hengaged.sound hengaged.current (fun _=>hactive) hordered.cleaning
 · intro key hkey
   apply helsewhere
   rintro rfl
   exact hkey (temp_owned _)
 · intro hitem
   refine ⟨hitem.source.frame ?_ ?_,TransferEffects.content_streamed hitem.content happart hafter hready,
    hitem.replaced.frame ?_ ?_ hordered.plain⟩
   · exact helsewhere happart.sourceTemp
   · exact helsewhere happart.stagedTemp
   · exact helsewhere happart.tempDestination.symm
   · exact helsewhere happart.tempBackup.symm

lemma Accounts.refused (h:Accounts prepared start t step files approved)
 (hactive:t.activeIndex.toNat=n)
 (hstage:step=.stageSource →
  ¬Shows files (itemAt t n).stagedSource (identityOf (itemAt t n).currentSourceSnapshot))
 (hatomic:step=.atomicMove →
  ¬Shows files (itemAt t n).destination (identityOf (itemAt t n).currentSourceSnapshot))
 (hrestore:step=.restoreStagedSource →
  ¬Shows files (itemAt t n).source (identityOf (itemAt t n).currentSourceSnapshot))
 (hdelete:step=.deleteSource → files (stagedKey (itemAt t n))≠none)
 (hevacuate:step=.evacuateOverwriteDestination → ¬Shows files (itemAt t n).overwriteBackup
  (identityOf (itemAt t n).overwriteDestinationSnapshot))
 (hcleanup:step=.cleanupOverwriteDestination → files (backupKey (itemAt t n))≠none):
 Accounts prepared start t .none files approved:=by
 apply h.restate rfl rfl rfl id (fun _=>.inl rfl)
 intro i hi hitem
 rw [stepOn_none]
 by_cases hne:i=n
 · subst hne
   rw [stepOn_index fun _=>hactive] at hitem
   exact ⟨source_refused hitem.source hstage hatomic hrestore hdelete,hitem.content,
    replaced_refused hitem.replaced hevacuate hcleanup⟩
 · rw [stepOn_other (fun _=>hactive) hne] at hitem
   exact hitem

lemma rename_refused (h:Accounts prepared start t step files approved)
 (hactive:t.activeIndex.toNat=n) (hrename:RenameStep step)
 (hnot:¬Shows files (renameRequest t n step).destination
  (renameRequest t n step).expectedIdentity):
 Accounts prepared start t .none files approved:=by
 obtain rfl | rfl | rfl | rfl | rfl | rfl:=hrename
 · exact Accounts.refused h hactive nofun (fun _=>hnot) nofun nofun nofun nofun
 · exact Accounts.refused h hactive (fun _=>hnot) nofun nofun nofun nofun nofun
 · exact Accounts.refused h hactive nofun nofun nofun nofun nofun nofun
 · exact Accounts.refused h hactive nofun nofun (fun _=>hnot) nofun nofun nofun
 · exact Accounts.refused h hactive nofun nofun nofun nofun (fun _=>hnot) nofun
 · exact Accounts.refused h hactive nofun nofun nofun nofun nofun nofun

lemma shows_ne_none {path : Path} {identity : Bytes} (h:Shows files path identity):
 files (transferPathKey path)≠none:=by
 obtain ⟨object,hheld,-⟩:=h
 rw [hheld]
 exact nofun

lemma delete_refused (h:Accounts prepared start t step files approved)
 (hactive:t.activeIndex.toNat=n) (hdelete:DeleteStep step)
 (hthere:Shows files (deleteRequest t n step).source
  (deleteRequest t n step).expectedIdentity):
 Accounts prepared start t .none files approved:=by
 obtain rfl | rfl | rfl:=hdelete
 · exact Accounts.refused h hactive nofun nofun nofun (fun _=>shows_ne_none hthere) nofun nofun
 · exact Accounts.refused h hactive nofun nofun nofun nofun nofun nofun
 · exact Accounts.refused h hactive nofun nofun nofun nofun nofun fun _=>shows_ne_none hthere

lemma streaming_idle (h:Accounts prepared start t step files approved)
 (hactive:t.activeIndex.toNat=n) (hstream:step=.reserveTemp ∨ step=.streamTemp):
 Accounts prepared start t .none files approved:=by
 obtain rfl | rfl:=hstream
 · exact Accounts.refused h hactive nofun nofun nofun nofun nofun nofun
 · exact Accounts.refused h hactive nofun nofun nofun nofun nofun nofun

section Settling
variable {item' : FileTransferItem} {snapshot : SourceSnapshot}

lemma advance_items (t : FileTransferTransaction) : (advance t).items=t.items ∧
 (advance t).kind=t.kind ∧ (advance t).operationId=t.operationId:=by
 unfold advance
 dsimp only
 split
 · exact ⟨rfl,rfl,rfl⟩
 · exact ⟨rfl,rfl,rfl⟩

lemma advance_cleaning (t : FileTransferTransaction):
 (advance t).phase=.prepublishCleanup ↔ t.phase=.prepublishCleanup:=by
 by_cases hphase:t.phase=.prepublishCleanup
 · rw [advance_cleanup hphase]
   rfl
 · rw [advance_processing hphase]
   simp only [hphase,iff_false]
   split
   · exact nofun
   · exact nofun

lemma Accounts.advanced (h:Accounts prepared start t step files approved)
 (hinside:n<t.items.length) (hactive:t.activeIndex.toNat=n)
 (hsource:item'.source=(itemAt t n).source)
 (hdestination:item'.destination=(itemAt t n).destination)
 (hitem:ItemAccounts start files approved (preparedIdentity prepared n) t.kind t.phase
   step (itemAt t n) →
  ItemAccounts start files approved (preparedIdentity prepared n) t.kind t.phase
   .none item'):
 Accounts prepared start (advance (setItem t n item')) .none files approved:=by
 obtain ⟨hitems,hkind,hoperation⟩:=advance_items (setItem t n item')
 have hforward:(advance (setItem t n item')).phase≠.prepublishCleanup →
   t.phase≠.prepublishCleanup := fun hne hphase=>hne ((advance_cleaning _).mpr hphase)
 apply h.settle hinside hitems (fun _=>hactive) (fun hno=>absurd rfl hno) hkind hoperation
  hforward (fun _=>.inl rfl) hsource hdestination
 intro hold
 exact (hitem hold).enter hforward

lemma forgetReplaced_plain {version : UInt32} (item : FileTransferItem)
 (h:item.overwriteState≠.authorized) : forgetReplaced version item=item:=by
 unfold forgetReplaced
 rw [if_neg]
 exact fun hboth=>h hboth.2

lemma rename_settle (h:Accounts prepared start t step files approved)
 (hengaged:Engaged t n step) (hactive:t.activeIndex.toNat=n)
 (hordered:Ordered t n step) (hrename:RenameStep step)
 (hthere:Shows files (renameRequest t n step).destination
  (renameRequest t n step).expectedIdentity)
 (hgone:¬Shows files (renameRequest t n step).source
  (renameRequest t n step).expectedIdentity)
 (hconfirmed:identityOf snapshot=(renameRequest t n step).expectedIdentity)
 (hrenamed:renamedItem t.version (itemAt t n) snapshot step=some item'):
 Accounts prepared start (advance (setItem t n item')) .none files approved:=by
 have hinside:=hengaged.current.inside
 have hfits:=hengaged.fits
 rw [itemStepMatches,hengaged.active] at hfits
 obtain rfl | rfl | rfl | rfl | rfl | rfl:=hrename
 · simp only [decide_eq_true_eq] at hfits
   obtain ⟨-,hstrategy,hlocation,habsent,-⟩:=hfits
   have hplain:=hordered.plain (.inl rfl)
   simp only [renamedItem,forgetReplaced_plain { itemAt t n with
    strategy:=.moveAtomic,sourceLocation := .removed,destinationState := .published
    destinationSnapshot:=snapshot } hplain,Option.some.injEq] at hrenamed
   subst hrenamed
   refine Accounts.advanced h hinside hactive rfl rfl fun hitem=>?_
   exact accounts_afterAtomicMove hitem hlocation hstrategy (by simp [habsent]) hgone hthere
 · simp only [decide_eq_true_eq] at hfits
   obtain ⟨-,hstrategy,hlocation,habsent⟩:=hfits
   have hunpublished:(itemAt t n).destinationState≠.published:=by simp [habsent]
   cases hrenamed
   refine Accounts.advanced h hinside hactive rfl rfl fun hitem=>?_
   exact ⟨source_afterStage hitem.source hlocation hstrategy hunpublished hgone hconfirmed,
    content_absent habsent,replaced_same (replaced_refused hitem.replaced (by simp) (by simp))
     (not_finished hunpublished) rfl rfl rfl rfl rfl⟩
 · simp only [decide_eq_true_eq] at hfits
   have hphase:t.phase≠.prepublishCleanup:=by
    intro hphase
    obtain hno | hno | hno | hno:=hordered.cleaning hphase
    · cases hno
    · cases hno
    · cases hno
    · cases hno
   have hplain:=hordered.plain (.inr rfl)
   simp only [renamedItem,forgetReplaced_plain { itemAt t n with
    destinationState:=.published,destinationSnapshot := snapshot } hplain,
    Option.some.injEq] at hrenamed
   subst hrenamed
   refine Accounts.advanced h hinside hactive rfl rfl fun hitem=>?_
   exact accounts_afterPublish hitem hphase hfits.2.1 hthere
 · simp only [decide_eq_true_eq] at hfits
   obtain ⟨-,hstrategy,hlocation,hunpublished,hphase⟩:=hfits
   cases hrenamed
   refine Accounts.advanced h hinside hactive rfl rfl fun hitem=>?_
   exact ⟨source_afterRestore hitem.source hlocation hstrategy hunpublished hgone hconfirmed,
    content_cleaned hphase hunpublished,replaced_same
     (replaced_refused hitem.replaced (by simp) (by simp)) (not_finished hunpublished)
     rfl rfl rfl rfl rfl⟩
 · simp only [decide_eq_true_eq] at hfits
   obtain ⟨-,hauthorized,hunpublished⟩:=hfits
   cases hrenamed
   have hbacked:Shows files (itemAt t n).overwriteBackup (identityOf snapshot):=hconfirmed ▸ hthere
   refine Accounts.advanced h hinside hactive rfl rfl fun hitem=>?_
   have hsource:=source_refused hitem.source (by simp) (by simp) (by simp) (by simp)
   exact ⟨⟨hsource.foreign,hsource.current,hsource.placed,hsource.unstaged⟩,
    ⟨hitem.content.reserved,hitem.content.copied,hitem.content.published⟩,
    replaced_afterEvacuate hitem.replaced hauthorized hbacked (.inl rfl)⟩
 · simp only [decide_eq_true_eq] at hfits
   obtain ⟨-,-,hstate,hunpublished⟩:=hfits
   cases hrenamed
   refine Accounts.advanced h hinside hactive rfl rfl fun hitem=>?_
   have hsource:=source_refused hitem.source (by simp) (by simp) (by simp) (by simp)
   exact ⟨⟨hsource.foreign,hsource.current,hsource.placed,hsource.unstaged⟩,
    ⟨hitem.content.reserved,hitem.content.copied,hitem.content.published⟩,
    replaced_cleared hitem.replaced hstate (.inr hgone)⟩

lemma delete_settle (h:Accounts prepared start t step files approved)
 (hengaged:Engaged t n step) (hactive:t.activeIndex.toNat=n)
 (hdelete:DeleteStep step)
 (hgone:files (transferPathKey (deleteRequest t n step).source)=none)
 (hdeleted:deletedItem (itemAt t n) step=some item'):
 Accounts prepared start (advance (setItem t n item')) .none files approved:=by
 have hinside:=hengaged.current.inside
 have hfits:=hengaged.fits
 obtain rfl | rfl | rfl:=hdelete
 · rw [itemStepMatches,hengaged.active] at hfits
   simp only [decide_eq_true_eq] at hfits
   obtain ⟨hkind,-,hlocation,-⟩:=hfits
   cases hdeleted
   refine Accounts.advanced h hinside hactive rfl rfl fun hitem=>?_
   refine ⟨source_afterDelete hitem.source hlocation hgone,
    ⟨hitem.content.reserved,hitem.content.copied,hitem.content.published⟩,
    replaced_same (replaced_refused hitem.replaced (by simp) (by simp)) ?_ rfl rfl rfl rfl rfl⟩
   intro hfinished
   exact ⟨hfinished.1,by simp [sourceFinal,hkind]⟩
 · rw [itemStepMatches,hengaged.active] at hfits
   simp only [decide_eq_true_eq] at hfits
   obtain ⟨-,-,hstate⟩:=hfits
   have hunpublished:(itemAt t n).destinationState≠.published:=by
    obtain hstate | hstate:=hstate
    · simp [hstate]
    · simp [hstate]
   cases hdeleted
   refine Accounts.advanced h hinside hactive rfl rfl fun hitem=>?_
   have hsource:=source_refused hitem.source (by simp) (by simp) (by simp) (by simp)
   exact ⟨⟨hsource.foreign,fun _=>hsource.current (.inl hunpublished),hsource.placed,
     hsource.unstaged⟩,content_absent rfl,
    replaced_same (replaced_refused hitem.replaced (by simp) (by simp)) (not_finished hunpublished)
     rfl rfl rfl rfl rfl⟩
 · obtain ⟨hfinished,hstate⟩:=finished_of_cleanup hfits hengaged.active
   cases hdeleted
   refine Accounts.advanced h hinside hactive rfl rfl fun hitem=>?_
   have hsource:=source_refused hitem.source (by simp) (by simp) (by simp) (by simp)
   exact ⟨⟨hsource.foreign,hsource.current,hsource.placed,hsource.unstaged⟩,
    ⟨hitem.content.reserved,hitem.content.copied,hitem.content.published⟩,
    replaced_cleared hitem.replaced (.inl hstate) (.inl hfinished)⟩

end Settling

end VoVe.TransferRecordSteps
