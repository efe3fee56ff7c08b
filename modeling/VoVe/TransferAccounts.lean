import VoVe.TransferCopyNames
import VoVe.TransferWorld

set_option autoImplicit false

namespace VoVe.TransferAccounts
open ByteCodec TransferTransaction
open FileTransferCoordinator TransferWorld

variable (item : FileTransferItem)

abbrev sourceKey : Bytes := transferPathKey item.source
abbrev stagedKey : Bytes := transferPathKey item.stagedSource
abbrev tempKey : Bytes := transferPathKey item.tempDestination
abbrev backupKey : Bytes := transferPathKey item.overwriteBackup
abbrev destinationKey : Bytes := transferPathKey item.destination

/-- The paths of an item are five different ones. -/
structure KeysApart (item : FileTransferItem) : Prop where
 sourceStaged : sourceKey item≠stagedKey item
 sourceTemp : sourceKey item≠tempKey item
 sourceBackup : sourceKey item≠backupKey item
 sourceDestination : sourceKey item≠destinationKey item
 stagedTemp : stagedKey item≠tempKey item
 stagedBackup : stagedKey item≠backupKey item
 stagedDestination : stagedKey item≠destinationKey item
 tempBackup : tempKey item≠backupKey item
 tempDestination : tempKey item≠destinationKey item
 backupDestination : backupKey item≠destinationKey item

lemma keysApart_of_nodup {item : FileTransferItem} (h:(ownedPaths item).Nodup):
 KeysApart item:=by
 simp only [ownedPaths,List.nodup_cons,List.mem_cons,List.not_mem_nil,or_false,not_or] at h
 obtain ⟨⟨h1,h2,h3,h4⟩,⟨h5,h6,h7⟩,⟨h8,h9⟩,h10,-⟩:=h
 exact ⟨h1,h2,h3,h4,h5,h6,h7,h8,h9,h10⟩

def Finished (kind : FileTransferKind) (item : FileTransferItem) : Prop:=
 item.destinationState = .published ∧ sourceFinal kind item = true

section Places
variable (start files : Files) (a approved : List (Bytes × Bytes)) (i identity : Bytes)
 (kind : FileTransferKind) (phase : FileTransferPhase) (step : FileTransferStep)
 (item : FileTransferItem)

variable (object : FileObject)

def Genuine : Prop := start (sourceKey item) = some object ∧ object.identity = identity

def SourcePlaced : Prop:=
 match item.sourceLocation with
 | .original=>files (sourceKey item) = some object ∨
   (step = .stageSource ∧ files (stagedKey item) = some object) ∨
   (step = .atomicMove ∧ files (destinationKey item) = some object)
 | .staged=>(step = .restoreStagedSource ∧ files (sourceKey item) = some object) ∨
   (files (sourceKey item)≠some object ∧ (files (stagedKey item) = some object ∨
    (step = .deleteSource ∧ files (stagedKey item) = none)))
 | .removed=>files (sourceKey item)≠some object ∧
   (item.strategy = .moveStream → files (stagedKey item) = none)

/-- Another file at the source's path is left alone. -/
structure SourceKept : Prop where
 foreign : ∀object,start (sourceKey item)=some object → object.identity≠identity →
  files (sourceKey item)=some object
 current : item.destinationState≠.published ∨ (∃ object,Genuine start identity item object) →
  identityOf item.currentSourceSnapshot=identity
 placed : ∀object,Genuine start identity item object → SourcePlaced files step item object
 unstaged : item.strategy≠.moveStream → files (stagedKey item)=start (stagedKey item)

/-- While content is under way only the temporary file has its identity; content that
  is ready is the source's wherever a file of that identity is. -/
structure ContentKept : Prop where
 reserved : phase≠.prepublishCleanup → item.destinationState=.tempReserved →
  ∀key object,files key=some object →
   object.identity=identityOf item.destinationSnapshot → key=tempKey item
 copied : phase≠.prepublishCleanup → item.destinationState=.contentReady →
  ∀source,Genuine start identity item source → ∀key object,files key=some object →
   object.identity=identityOf item.destinationSnapshot → object.content=source.content
 published : item.destinationState=.published → ∃ object,
  files (destinationKey item)=some object ∧
  ∀source,Genuine start identity item source → object.content=source.content

/-- A file at the destination is there still, or the user gave it up; until the item
  is finished it is kept as the backup. -/
def DestinationKept : Prop:=
 files (destinationKey item) = some object ∨ ((destinationKey item,object.identity) ∈ approved ∧
   match item.overwriteState with
   | .none=>Finished kind item
   | .authorized=>step = .evacuateOverwriteDestination ∧
     object.identity = identityOf item.overwriteDestinationSnapshot ∧
     files (backupKey item) = some object
   | .evacuated | .evacuatedUnexpected=>
     (object.identity = identityOf item.overwriteBackupSnapshot ∧
      files (backupKey item) = some object) ∨
     (step = .cleanupOverwriteDestination ∧ Finished kind item ∧ files (backupKey item) = none))

structure ReplacedKept : Prop where
 kept : ∀object,start (destinationKey item)=some object →
  DestinationKept files approved kind step item object
 authorized : item.overwriteState=.authorized →
  (destinationKey item,identityOf item.overwriteDestinationSnapshot)∈approved
 plain : step=.atomicMove ∨ step=.publishTemp → item.overwriteState≠.authorized

structure ItemAccounts : Prop where
 source : SourceKept start files identity step item
 content : ContentKept start files identity phase item
 replaced : ReplacedKept start files approved kind step item

end Places

section Frames
variable {start files after : Files} {a approved approved' : List (Bytes × Bytes)} {i identity : Bytes}
 {kind : FileTransferKind} {phase phase' : FileTransferPhase} {step : FileTransferStep}
 {item : FileTransferItem}

lemma SourceKept.frame (h:SourceKept start files i .none item)
 (hsource:after (sourceKey item)=files (sourceKey item))
 (hstaged:after (stagedKey item)=files (stagedKey item)):
 SourceKept start after i step item:=by
 constructor
 · intro o hobject hforeign
   rw [hsource]
   exact h.foreign o hobject hforeign
 · exact h.current
 · intro o hgenuine
   have hplaced:=h.placed o hgenuine
   unfold SourcePlaced at hplaced ⊢
   rw [hsource,hstaged]
   cases hlocation:item.sourceLocation with
   | original=>
    rw [hlocation] at hplaced
    obtain hat | ⟨hno,-⟩ | ⟨hno,-⟩:=hplaced
    · exact .inl hat
    · cases hno
    · cases hno
   | staged=>
    rw [hlocation] at hplaced
    obtain ⟨hno,-⟩ | ⟨hgone,hat | ⟨hno,-⟩⟩:=hplaced
    · cases hno
    · exact .inr ⟨hgone,.inl hat⟩
    · cases hno
   | removed=>
    rw [hlocation] at hplaced
    exact hplaced
 · intro hstrategy
   rw [hstaged]
   exact h.unstaged hstrategy

lemma ContentKept.frame (h:ContentKept start files i phase item)
 (hcomes:∀key o,after key=some o → ∃ key',files key'=some o ∧
  (item.destinationState=.tempReserved → key'=tempKey item → key=tempKey item))
 (hpublished:item.destinationState=.published →
  after (destinationKey item)=files (destinationKey item)):
 ContentKept start after i phase item:=by
 constructor
 · intro hphase hstate key o hheld hidentity
   obtain ⟨key',hheld',hsame⟩:=hcomes key o hheld
   exact hsame hstate (h.reserved hphase hstate key' o hheld' hidentity)
 · intro hphase hstate source hgenuine key o hheld hidentity
   obtain ⟨key',hheld',-⟩:=hcomes key o hheld
   exact h.copied hphase hstate source hgenuine key' o hheld' hidentity
 · intro hstate
   rw [hpublished hstate]
   exact h.published hstate

lemma ReplacedKept.frame (h:ReplacedKept start files a kind .none item)
 (hdestination:after (destinationKey item)=files (destinationKey item))
 (hbackup:after (backupKey item)=files (backupKey item))
 (hplain:step=.atomicMove ∨ step=.publishTemp → item.overwriteState≠.authorized):
 ReplacedKept start after a kind step item:=by
 refine ⟨?_,h.authorized,hplain⟩
 intro o hobject
 have hkept:=h.kept o hobject
 unfold DestinationKept at hkept ⊢
 rw [hdestination,hbackup]
 obtain hat | ⟨hgiven,hrest⟩:=hkept
 · exact .inl hat
 · right
   refine ⟨hgiven,?_⟩
   cases hstate:item.overwriteState with
   | none=>
    rw [hstate] at hrest
    exact hrest
   | authorized=>
    rw [hstate] at hrest
    cases hrest.1
   | evacuated=>
    rw [hstate] at hrest
    obtain hbacked | ⟨hno,-⟩:=hrest
    · exact .inl hbacked
    · cases hno
   | evacuatedUnexpected=>
    rw [hstate] at hrest
    obtain hbacked | ⟨hno,-⟩:=hrest
    · exact .inl hbacked
    · cases hno

lemma ReplacedKept.approve (h:ReplacedKept start files a kind step item)
 (hmore:∀given∈a,given∈approved'):
 ReplacedKept start files approved' kind step item:=by
 refine ⟨?_,fun hstate=>hmore _ (h.authorized hstate),h.plain⟩
 intro o hobject
 obtain hat | ⟨hgiven,hrest⟩:=h.kept o hobject
 · exact .inl hat
 · exact .inr ⟨hmore _ hgiven,hrest⟩

lemma ItemAccounts.approve (h:ItemAccounts start files a i kind phase step item)
 (hmore:∀given∈a,given∈approved'):
 ItemAccounts start files approved' i kind phase step item:=
 ⟨h.source,h.content,h.replaced.approve hmore⟩

lemma ContentKept.enter (h:ContentKept start files i phase item)
 (hphase:phase'≠.prepublishCleanup → phase≠.prepublishCleanup):
 ContentKept start files i phase' item:=
 ⟨fun hforward=>h.reserved (hphase hforward),fun hforward=>h.copied (hphase hforward), h.published⟩

lemma ItemAccounts.enter
 (h:ItemAccounts start files a i kind phase step item)
 (hphase:phase'≠.prepublishCleanup → phase≠.prepublishCleanup):
 ItemAccounts start files a i kind phase' step item:=
 ⟨h.source,h.content.enter hphase,h.replaced⟩

lemma comes_same : ∀key o,files key=some o → ∃ key',files key'=some o ∧
 (item.destinationState=.tempReserved → key'=tempKey item → key=tempKey item):=
 fun key _ hheld=>⟨key,hheld,fun _ hsame=>hsame⟩

lemma ItemAccounts.begun (h:ItemAccounts start files a i kind phase .none item)
 (hplain:step=.atomicMove ∨ step=.publishTemp → item.overwriteState≠.authorized):
 ItemAccounts start files a i kind phase step item:=
 ⟨h.source.frame rfl rfl,h.content.frame comes_same fun _=>rfl,h.replaced.frame rfl rfl hplain⟩

lemma ItemAccounts.elsewhere
 (h:ItemAccounts start files a i kind phase .none item)
 (hreserved:item.destinationState≠.tempReserved)
 (hready:item.destinationState≠.contentReady)
 (hsource:after (sourceKey item)=files (sourceKey item))
 (hstaged:after (stagedKey item)=files (stagedKey item))
 (hbackup:after (backupKey item)=files (backupKey item))
 (hdestination:after (destinationKey item)=files (destinationKey item)):
 ItemAccounts start after a i kind phase .none item:=by
 refine ⟨h.source.frame hsource hstaged,?_,h.replaced.frame hdestination hbackup nofun⟩
 refine ⟨fun _ hstate=>absurd hstate hreserved,fun _ hstate=>absurd hstate hready,?_⟩
 intro hstate
 rw [hdestination]
 exact h.content.published hstate

end Frames

end VoVe.TransferAccounts
