import Brainfuck.Main
import Brainfuck.Proofs.CSource.Agreement
import Brainfuck.Proofs.CSource.Layout
import Brainfuck.Proofs.CommandLine.ProgramText
import Brainfuck.Proofs.Console.Flattening
import Brainfuck.Proofs.Engine.Afresh
import Brainfuck.Proofs.Engine.Composition
import Brainfuck.Proofs.Engine.Modes
import Brainfuck.Proofs.Engine.Pinpointing
import Brainfuck.Proofs.Engine.Refusal
import Brainfuck.Proofs.Engine.Retrying
import Brainfuck.Proofs.Engine.TapeSize
import Brainfuck.Proofs.Machine.Resumption
import Brainfuck.Proofs.Program.Growth
