import AndInverter.Aag.Printer
import AndInverter.Circuit.Evaluation
import AndInverter.Cnf.Dimacs
import AndInverter.Encoding.NameRecord
import AndInverter.Files.Tree
import AndInverter.Main
import AndInverter.Proofs.Circuit.Simulation
import AndInverter.Proofs.Cnf.Satisfaction
import AndInverter.Word
import AndInverter.Proofs.Encoding.GateClauses
import AndInverter.Proofs.Encoding.Pinning
import AndInverter.Proofs.Encoding.Layout
import AndInverter.Proofs.Text.Numeral
import AndInverter.Proofs.Aag.Grammar
import AndInverter.Proofs.Aag.Lines
import AndInverter.Proofs.Aag.Windows
import AndInverter.Proofs.Aag.Acceptance
import AndInverter.Proofs.Encoding.Models
import AndInverter.Proofs.Encoding.Equivalence
import AndInverter.Proofs.Files.Contents
import AndInverter.Proofs.Files.Withdrawal
import AndInverter.Proofs.Text.Joined
import AndInverter.Proofs.Files.StagingPlace
import AndInverter.Proofs.OutputFiles.Endings
import AndInverter.Proofs.OutputFiles.CleanFailure
import AndInverter.Proofs.Cnf.DimacsRoundTrip
import AndInverter.Proofs.OrderedMap
import AndInverter.Proofs.Aag.SymbolNames
import AndInverter.Proofs.Encoding.Rendering
import AndInverter.Proofs.Aag.Printing
import AndInverter.Proofs.Aag.RoundTrip
import AndInverter.Proofs.Encoding.SignalNames
import AndInverter.Proofs.Text.SignedNumeral
import AndInverter.Proofs.Encoding.Arguments
import AndInverter.Proofs.Encoding.Endings
import AndInverter.Proofs.Encoding.Safety
import AndInverter.Proofs.Encoding.FixedSignals
import AndInverter.Proofs.Encoding.Runs
import AndInverter.Proofs.Encoding.Independence
import AndInverter.Proofs.Aag.LayoutIndependence
import AndInverter.Proofs.Encoding.NameRecords
import AndInverter.Proofs.Circuit.Denotation
import AndInverter.Proofs.Encoding.ConstantInputs
import AndInverter.Proofs.Text.Undecodable
import AndInverter.Proofs.Aag.Tail
import AndInverter.Proofs.Aag.ErrorLines
import AndInverter.Proofs.Aag.SymbolTable
import AndInverter.Proofs.Cnf.FirstFailing
import AndInverter.Proofs.Encoding.Reports
import AndInverter.Proofs.Encoding.EncodableGates
import AndInverter.Proofs.Text.One
import AndInverter.Proofs.Encoding.ArgumentMeaning
import AndInverter.Proofs.Encoding.Latches
import AndInverter.Proofs.Literal.SignedWords
import AndInverter.Proofs.Aag.Limits
