import VoVe.TransferEffects

set_option autoImplicit false

namespace VoVe.TransferSettles
open ByteCodec FileOperation TransferTransaction FileTransferProtocol
open FileTransferCoordinator TransferWorld TransferAccounts

variable {start files : Files} {a : List (Bytes × Bytes)} {i : Bytes}
 {kind : FileTransferKind} {phase phase' : FileTransferPhase} {step : FileTransferStep}
 {item : FileTransferItem} {s : SourceSnapshot}

lemma source_refused (h:SourceKept start files i step item)
 (hstage:step=.stageSource →
  ¬Shows files item.stagedSource (identityOf item.currentSourceSnapshot))
 (hatomic:step=.atomicMove →
  ¬Shows files item.destination (identityOf item.currentSourceSnapshot))
 (hrestore:step=.restoreStagedSource →
  ¬Shows files item.source (identityOf item.currentSourceSnapshot))
 (hdelete:step=.deleteSource → files (stagedKey item)≠none):
 SourceKept start files i .none item:=by
 refine ⟨h.foreign,h.current,?_,h.unstaged⟩
 intro object hgenuine
 have hidentity:object.identity=identityOf item.currentSourceSnapshot:=
  hgenuine.2.trans (h.current (.inr ⟨object,hgenuine⟩)).symm
 have hplaced:=h.placed object hgenuine
 unfold SourcePlaced at hplaced ⊢
 cases hlocation:item.sourceLocation with
 | original=>
  rw [hlocation] at hplaced
  obtain hat | ⟨hstep,hat⟩ | ⟨hstep,hat⟩:=hplaced
  · exact .inl hat
  · exact absurd ⟨object,hat,hidentity⟩ (hstage hstep)
  · exact absurd ⟨object,hat,hidentity⟩ (hatomic hstep)
 | staged=>
  rw [hlocation] at hplaced
  obtain ⟨hstep,hat⟩ | ⟨hgone,hat | ⟨hstep,hnone⟩⟩:=hplaced
  · exact absurd ⟨object,hat,hidentity⟩ (hrestore hstep)
  · exact .inr ⟨hgone,.inl hat⟩
  · exact absurd hnone (hdelete hstep)
 | removed=>
  rw [hlocation] at hplaced
  exact hplaced

lemma replaced_refused (h:ReplacedKept start files a kind step item)
 (hevacuate:step=.evacuateOverwriteDestination →
  ¬Shows files item.overwriteBackup (identityOf item.overwriteDestinationSnapshot))
 (hcleanup:step=.cleanupOverwriteDestination → files (backupKey item)≠none):
 ReplacedKept start files a kind .none item:=by
 refine ⟨?_,h.authorized,nofun⟩
 intro object hobject
 obtain hat | ⟨hgiven,hrest⟩:=h.kept object hobject
 · exact .inl hat
 · right
   refine ⟨hgiven,?_⟩
   cases hstate:item.overwriteState with
   | none=>
    rw [hstate] at hrest
    exact hrest
   | authorized=>
    rw [hstate] at hrest
    obtain ⟨hstep,hidentity,hbacked⟩:=hrest
    exact absurd ⟨object,hbacked,hidentity⟩ (hevacuate hstep)
   | evacuated=>
    rw [hstate] at hrest
    obtain hbacked | ⟨hstep,-,hnone⟩:=hrest
    · exact .inl hbacked
    · exact absurd hnone (hcleanup hstep)
   | evacuatedUnexpected=>
    rw [hstate] at hrest
    obtain hbacked | ⟨hstep,-,hnone⟩:=hrest
    · exact .inl hbacked
    · exact absurd hnone (hcleanup hstep)

lemma replaced_same {item' : FileTransferItem}
 (h:ReplacedKept start files a kind .none item)
 (hfinished:Finished kind item → Finished kind item')
 (hdestination:item'.destination=item.destination)
 (hbackup:item'.overwriteBackup=item.overwriteBackup)
 (hstate:item'.overwriteState=item.overwriteState)
 (hauthorized:item'.overwriteDestinationSnapshot=item.overwriteDestinationSnapshot)
 (hkept:item'.overwriteBackupSnapshot=item.overwriteBackupSnapshot):
 ReplacedKept start files a kind .none item':=by
 refine ⟨?_,?_,nofun⟩
 · intro object hobject
   unfold DestinationKept
   simp only [destinationKey,backupKey,hdestination,hbackup,hstate,hauthorized, hkept] at hobject ⊢
   obtain hat | ⟨hgiven,hrest⟩:=h.kept object hobject
   · exact .inl hat
   · right
     refine ⟨hgiven,?_⟩
     cases hitem:item.overwriteState with
     | none=>
      rw [hitem] at hrest
      exact hfinished hrest
     | authorized=>
      rw [hitem] at hrest
      cases hrest.1
     | evacuated=>
      rw [hitem] at hrest
      obtain hbacked | ⟨hno,-⟩:=hrest
      · exact .inl hbacked
      · cases hno
     | evacuatedUnexpected=>
      rw [hitem] at hrest
      obtain hbacked | ⟨hno,-⟩:=hrest
      · exact .inl hbacked
      · cases hno
 · simp only [destinationKey,hdestination,hstate,hauthorized]
   exact h.authorized

lemma not_finished (hunpublished:item.destinationState≠.published) {item' : FileTransferItem}:
 Finished kind item → Finished kind item':=
 fun hfinished=>absurd hfinished.1 hunpublished

lemma source_afterStage (h:SourceKept start files i .stageSource item)
 (hlocation:item.sourceLocation=.original) (hstrategy:item.strategy=.moveStream)
 (hunpublished:item.destinationState≠.published)
 (hgone:¬Shows files item.source (identityOf item.currentSourceSnapshot))
 (hconfirmed:identityOf s=identityOf item.currentSourceSnapshot):
 SourceKept start files i .none
  { item with sourceLocation:=.staged,currentSourceSnapshot:=s }:=by
 have hcurrent:=h.current (.inl hunpublished)
 refine ⟨h.foreign,fun _=>hconfirmed.trans hcurrent,?_,fun hno=>absurd hstrategy hno⟩
 intro object hgenuine
 have hplaced:=h.placed object hgenuine
 unfold SourcePlaced at hplaced
 rw [hlocation] at hplaced
 have hnot:files (sourceKey item)≠some object:=by
  intro hat
  exact hgone ⟨object,hat,hgenuine.2.trans hcurrent.symm⟩
 obtain hat | ⟨-,hat⟩ | ⟨hno,-⟩:=hplaced
 · exact absurd hat hnot
 · exact .inr ⟨hnot,.inl hat⟩
 · cases hno

lemma source_afterRestore (h:SourceKept start files i .restoreStagedSource item)
 (hlocation:item.sourceLocation=.staged) (hstrategy:item.strategy=.moveStream)
 (hunpublished:item.destinationState≠.published)
 (hgone:¬Shows files item.stagedSource (identityOf item.currentSourceSnapshot))
 (hconfirmed:identityOf s=identityOf item.currentSourceSnapshot):
 SourceKept start files i .none
  { item with sourceLocation:=.original,currentSourceSnapshot:=s }:=by
 have hcurrent:=h.current (.inl hunpublished)
 refine ⟨h.foreign,fun _=>hconfirmed.trans hcurrent,?_,fun hno=>absurd hstrategy hno⟩
 intro object hgenuine
 have hplaced:=h.placed object hgenuine
 unfold SourcePlaced at hplaced
 rw [hlocation] at hplaced
 obtain ⟨-,hat⟩ | ⟨-,hat | ⟨hno,-⟩⟩:=hplaced
 · exact .inl hat
 · exact absurd ⟨object,hat,hgenuine.2.trans hcurrent.symm⟩ hgone
 · cases hno

lemma moved_at_destination (h:SourceKept start files i .atomicMove item)
 (hlocation:item.sourceLocation=.original)
 (hunpublished:item.destinationState≠.published)
 (hgone:¬Shows files item.source (identityOf item.currentSourceSnapshot))
 (object : FileObject) (hgenuine:Genuine start i item object):
 files (sourceKey item)≠some object ∧ files (destinationKey item)=some object:=by
 have hcurrent:=h.current (.inl hunpublished)
 have hplaced:=h.placed object hgenuine
 unfold SourcePlaced at hplaced
 rw [hlocation] at hplaced
 have hnot:files (sourceKey item)≠some object:=by
  intro hat
  exact hgone ⟨object,hat,hgenuine.2.trans hcurrent.symm⟩
 obtain hat | ⟨hno,-⟩ | ⟨-,hat⟩:=hplaced
 · exact absurd hat hnot
 · cases hno
 · exact ⟨hnot,hat⟩

lemma accounts_afterAtomicMove
 (h:ItemAccounts start files a i kind phase .atomicMove item)
 (hlocation:item.sourceLocation=.original) (hstrategy:item.strategy=.moveUndecided)
 (hunpublished:item.destinationState≠.published)
 (hgone:¬Shows files item.source (identityOf item.currentSourceSnapshot))
 (hthere:Shows files item.destination (identityOf item.currentSourceSnapshot)):
 ItemAccounts start files a i kind phase' .none
  { item with strategy:=.moveAtomic,sourceLocation:=.removed
              destinationState:=.published,destinationSnapshot := s }:=by
 have hmoved:=fun object hgenuine =>
  moved_at_destination h.source hlocation hunpublished hgone object hgenuine
 have hundecided:item.strategy≠.moveStream:=by
  rw [hstrategy]
  exact nofun
 refine ⟨?_,?_,?_⟩
 · refine ⟨h.source.foreign,fun _=>h.source.current (.inl hunpublished),?_,?_⟩
   · intro object hgenuine
     exact ⟨(hmoved object hgenuine).1,nofun⟩
   · exact fun _=>h.source.unstaged hundecided
 · refine ⟨fun _=>nofun,fun _=>nofun,fun _=>?_⟩
   obtain ⟨object,hheld,-⟩:=hthere
   refine ⟨object,hheld,?_⟩
   intro source hgenuine
   have hat:=(hmoved source hgenuine).2
   rw [Option.some.inj (hheld.symm.trans hat)]
 · exact replaced_same (replaced_refused h.replaced nofun nofun) (not_finished hunpublished)
    rfl rfl rfl rfl rfl

lemma accounts_afterPublish
 (h:ItemAccounts start files a i kind phase .publishTemp item)
 (hphase:phase≠.prepublishCleanup) (hready:item.destinationState=.contentReady)
 (hthere:Shows files item.destination (identityOf item.destinationSnapshot)):
 ItemAccounts start files a i kind phase' .none
  { item with destinationState:=.published,destinationSnapshot:=s }:=by
 have hunpublished:item.destinationState≠.published:=by
  rw [hready]
  exact nofun
 refine ⟨?_,?_,replaced_same (replaced_refused h.replaced nofun nofun)
  (not_finished hunpublished) rfl rfl rfl rfl rfl⟩
 · have hidle:=source_refused h.source nofun nofun nofun nofun
   exact ⟨hidle.foreign,fun _=>hidle.current (.inl hunpublished),hidle.placed,hidle.unstaged⟩
 · refine ⟨fun _=>nofun,fun _=>nofun,fun _=>?_⟩
   obtain ⟨object,hheld,hidentity⟩:=hthere
   exact ⟨object,hheld,fun source hgenuine =>
    h.content.copied hphase hready source hgenuine _ object hheld hidentity⟩

lemma source_afterDelete (h:SourceKept start files i .deleteSource item)
 (hlocation:item.sourceLocation=.staged) (hnone:files (stagedKey item)=none):
 SourceKept start files i .none { item with sourceLocation:=.removed }:=by
 refine ⟨h.foreign,h.current,?_,h.unstaged⟩
 intro object hgenuine
 have hplaced:=h.placed object hgenuine
 unfold SourcePlaced at hplaced
 rw [hlocation] at hplaced
 obtain ⟨hno,-⟩ | ⟨hgone,-⟩:=hplaced
 · cases hno
 · exact ⟨hgone,fun _=>hnone⟩

lemma replaced_afterEvacuate
 (h:ReplacedKept start files a kind .evacuateOverwriteDestination item)
 (hauthorized:item.overwriteState=.authorized)
 (hthere:Shows files item.overwriteBackup (identityOf s))
 {state : OverwriteDestinationState} (hstate:state=.evacuated ∨ state=.evacuatedUnexpected):
 ReplacedKept start files a kind .none
  { item with overwriteBackupSnapshot:=s,overwriteState:=state }:=by
 refine ⟨?_,?_,nofun⟩
 · intro object hobject
   obtain hat | ⟨hgiven,hrest⟩:=h.kept object hobject
   · exact .inl hat
   · right
     rw [hauthorized] at hrest
     obtain ⟨-,-,hbacked⟩:=hrest
     obtain ⟨held,hheld,hidentity⟩:=hthere
     have hsame:held=object:=Option.some.inj (hheld.symm.trans hbacked)
     refine ⟨hgiven,?_⟩
     obtain rfl | rfl:=hstate
     · exact .inl ⟨hsame ▸ hidentity,hbacked⟩
     · exact .inl ⟨hsame ▸ hidentity,hbacked⟩
 · obtain rfl | rfl:=hstate
   · exact nofun
   · exact nofun

lemma replaced_cleared (h:ReplacedKept start files a kind step item)
 (hstate:item.overwriteState=.evacuated ∨ item.overwriteState=.evacuatedUnexpected)
 (hgone:Finished kind item ∨
  ¬Shows files item.overwriteBackup (identityOf item.overwriteBackupSnapshot)):
 ReplacedKept start files a kind .none (clearOverwrite item):=by
 refine ⟨?_,nofun,nofun⟩
 intro object hobject
 obtain hat | ⟨hgiven,hrest⟩:=h.kept object hobject
 · exact .inl hat
 · right
   refine ⟨hgiven,?_⟩
   change Finished kind item
   have hcases:(object.identity=identityOf item.overwriteBackupSnapshot ∧
     files (backupKey item)=some object) ∨
     (step=.cleanupOverwriteDestination ∧ Finished kind item ∧
      files (backupKey item)=none):=by
    obtain hstate | hstate:=hstate
    · rw [hstate] at hrest
      exact hrest
    · rw [hstate] at hrest
      exact hrest
   obtain hfinished | hgone:=hgone
   · exact hfinished
   · obtain ⟨hidentity,hbacked⟩ | ⟨-,hfinished,-⟩:=hcases
     · exact absurd ⟨object,hbacked,hidentity⟩ hgone
     · exact hfinished

lemma source_same {item' : FileTransferItem} (h:SourceKept start files i .none item)
 (hsource:item'.source=item.source) (hstaged:item'.stagedSource=item.stagedSource)
 (hcurrent:item'.currentSourceSnapshot=item.currentSourceSnapshot)
 (hlocation:item'.sourceLocation=item.sourceLocation)
 (hstrategy:item'.strategy=item.strategy)
 (hunpublished:item.destinationState≠.published):
 SourceKept start files i .none item':=by
 refine ⟨?_,fun _=>?_,?_,?_⟩
 · rw [sourceKey,hsource]
   exact h.foreign
 · rw [hcurrent]
   exact h.current (.inl hunpublished)
 · intro object hgenuine
   rw [Genuine,sourceKey,hsource] at hgenuine
   have hplaced:=h.placed object hgenuine
   unfold SourcePlaced at hplaced ⊢
   rw [hlocation,sourceKey,stagedKey,hsource,hstaged,hstrategy]
   cases hat:item.sourceLocation with
   | original=>
    rw [hat] at hplaced
    obtain hthere | ⟨hno,-⟩ | ⟨hno,-⟩:=hplaced
    · exact .inl hthere
    · cases hno
    · cases hno
   | staged=>
    rw [hat] at hplaced
    exact hplaced
   | removed=>
    rw [hat] at hplaced
    exact hplaced
 · rw [hstrategy,stagedKey,hstaged]
   exact h.unstaged

lemma source_streamInstead (h:SourceKept start files i .none item)
 (hlocation:item.sourceLocation=.original) {reason : MoveStreamReason}:
 SourceKept start files i .none
  { item with strategy:=.moveStream,moveStreamReason:=reason }:=by
 refine ⟨h.foreign,h.current,?_,fun hno=>absurd rfl hno⟩
 intro object hgenuine
 have hplaced:=h.placed object hgenuine
 unfold SourcePlaced at hplaced ⊢
 rw [hlocation] at hplaced
 simp only [hlocation]
 exact hplaced

lemma source_verified (h:SourceKept start files i .none item)
 (hlocation:item.sourceLocation=.staged)
 (hthere:Shows files item.stagedSource (identityOf s))
 (hpublished:item.destinationState=.published):
 SourceKept start files i .none (verifiedSource item s):=by
 refine ⟨h.foreign,?_,h.placed,h.unstaged⟩
 intro hneeded
 obtain hunpublished | ⟨object,hgenuine⟩:=hneeded
 · exact absurd hpublished hunpublished
 · have hplaced:=h.placed object hgenuine
   unfold SourcePlaced at hplaced
   rw [hlocation] at hplaced
   obtain ⟨hno,-⟩ | ⟨-,hat | ⟨hno,-⟩⟩:=hplaced
   · cases hno
   · obtain ⟨held,hheld,hidentity⟩:=hthere
     have hsame:held=object:=Option.some.inj (hheld.symm.trans hat)
     rw [←hgenuine.2,←hsame]
     exact hidentity.symm
   · cases hno

lemma content_cleaned (hphase:phase=.prepublishCleanup)
 (hunpublished:item.destinationState≠.published):
 ContentKept start files i phase item:=
 ⟨fun hno=>absurd hphase hno,fun hno=>absurd hphase hno,
  fun hpublished=>absurd hpublished hunpublished⟩

lemma content_absent (habsent:item.destinationState=.absent):
 ContentKept start files i phase item:=by
 refine ⟨fun _ hstate=>?_,fun _ hstate=>?_,fun hstate=>?_⟩
 · rw [habsent] at hstate
   cases hstate
 · rw [habsent] at hstate
   cases hstate
 · rw [habsent] at hstate
   cases hstate

lemma content_reserved (hown:∀key object,files key=some object → object.identity=identityOf s →
  key=tempKey item) {revision : Bytes}:
 ContentKept start files i phase { item with
  destinationSnapshot:=s,destinationParentRevisionUtf8 := revision
  destinationState:=.tempReserved }:=
 ⟨fun _ _=>hown,fun _=>nofun,nofun⟩

lemma content_streamed (h:ContentKept start files i phase item)
 (hreserved:item.destinationState=.tempReserved)
 {temp : FileObject} (hheld:files (tempKey item)=some temp)
 (hsame:identityOf s=identityOf item.destinationSnapshot)
 (hcontent:∀source,Genuine start i item source → temp.content=source.content)
 {result : FileTransferStreamResult} (hsnapshot:result.tempSnapshot=s):
 ContentKept start files i phase (streamedItem item result):=by
 refine ⟨fun _=>nofun,?_,nofun⟩
 intro hphase _ source hgenuine key object hkey hidentity
 have hidentity':object.identity=identityOf item.destinationSnapshot:=by
  rw [←hsame,←hsnapshot]
  exact hidentity
 have htemp:=h.reserved hphase hreserved key object hkey hidentity'
 rw [htemp,hheld] at hkey
 rw [←Option.some.inj hkey]
 exact hcontent source hgenuine

lemma destination_same (h:ReplacedKept start files a kind .none item)
 (hunpublished:item.destinationState≠.published)
 (hstate:item.overwriteState=.none ∨ item.overwriteState=.authorized)
 {object : FileObject} (hobject:start (destinationKey item)=some object):
 files (destinationKey item)=some object:=by
 obtain hat | ⟨-,hrest⟩:=h.kept object hobject
 · exact hat
 · obtain hstate | hstate:=hstate
   · rw [hstate] at hrest
     exact absurd hrest.1 hunpublished
   · rw [hstate] at hrest
     cases hrest.1

lemma replaced_authorized (h:ReplacedKept start files a kind .none item)
 (hunpublished:item.destinationState≠.published)
 (hstate:item.overwriteState=.none ∨ item.overwriteState=.authorized)
 (hgiven:(destinationKey item,identityOf s)∈a):
 ReplacedKept start files a kind .none (overwrittenItem item s):=by
 refine ⟨?_,fun _=>hgiven,nofun⟩
 intro object hobject
 exact .inl (destination_same h hunpublished hstate hobject)

end VoVe.TransferSettles
