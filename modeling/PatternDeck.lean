import PatternDeck.Main
import PatternDeck.Proofs.Catalog
import PatternDeck.Proofs.Library.Keyed
import PatternDeck.Proofs.Library.Loading
import PatternDeck.Proofs.Listeners.Delivery
import PatternDeck.Proofs.Listeners.Registration
import PatternDeck.Proofs.Parameter.Motion
import PatternDeck.Proofs.Program.Grammar
import PatternDeck.Proofs.Program.Interchange
import PatternDeck.Proofs.Program.Resolving
import PatternDeck.Proofs.Program.Substitution
import PatternDeck.Proofs.Renderer.Remote
import PatternDeck.Proofs.Rig.Inbound
import PatternDeck.Proofs.Stage.Announcement
import PatternDeck.Proofs.Stage.Disclosure
import PatternDeck.Proofs.Stage.Replacement
import PatternDeck.Proofs.Stage.RunningProgram
import PatternDeck.Proofs.Stage.Silence
import PatternDeck.Proofs.Stage.Swap
import PatternDeck.Proofs.Stage.Tolerance
import PatternDeck.Proofs.Stage.WellFormed
import PatternDeck.Proofs.Startup.Restart
