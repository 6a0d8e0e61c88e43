import Chip8.CommandLine.Parse
import Chip8.Console
import Chip8.Launch
import Chip8.Main
import Chip8.Processor.Frames
import Chip8.Proofs.CallNesting
import Chip8.Proofs.Faults
import Chip8.Proofs.FrameDrawing
import Chip8.Proofs.Requests
import Chip8.Proofs.Restart
import Chip8.Proofs.Simulation
import Chip8.Proofs.Unsupported
import Chip8.Proofs.WholePixels
import Chip8.Session.Play
import Chip8.Span
import Chip8.Proofs.Traits
import Chip8.Proofs.Course
import Chip8.Proofs.SoundInStep
import Chip8.Proofs.FrameOrder
import Chip8.Proofs.Timeless
import Chip8.Proofs.Buzzer
import Chip8.Proofs.Loudspeaker
import Chip8.Proofs.ScrollDistance
import Chip8.Proofs.Stamp
import Chip8.Proofs.SpriteDrawing
import Chip8.Proofs.Spelling
import Chip8.Proofs.Skipping
import Chip8.Proofs.KeyWait
import Chip8.Proofs.Aliasing
import Chip8.Proofs.Contact
import Chip8.Proofs.Redrawing
import Chip8.Proofs.RegisterRanges
import Chip8.Proofs.RegisterBlocks
import Chip8.Proofs.KeyEvents
import Chip8.Proofs.Painting
import Chip8.Proofs.Tally
import Chip8.Proofs.PaletteText
import Chip8.Proofs.KeymapText
import Chip8.Proofs.StackRequests
import Chip8.Proofs.Accesses
import Chip8.Proofs.PaletteMisuse
import Chip8.Proofs.PixelFlip
import Chip8.Proofs.CrashReports
import Chip8.Proofs.LiveDebugging
