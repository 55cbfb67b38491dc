import ThresholdCheck.Binary64.Bits
import ThresholdCheck.Main
import ThresholdCheck.PerfData.Record
import ThresholdCheck.Proofs.Check.Run
import ThresholdCheck.Proofs.Range.Accepted
import ThresholdCheck.Proofs.Session
import ThresholdCheck.Proofs.Range.Refused
import ThresholdCheck.Proofs.Range.Written
import ThresholdCheck.Proofs.Check.Labels
import ThresholdCheck.Proofs.Check.Stages
import ThresholdCheck.Proofs.CommandLine.Given
import ThresholdCheck.Proofs.StatusLine
import ThresholdCheck.Proofs.Check.Dump
import ThresholdCheck.Proofs.Range.Sides
import ThresholdCheck.Proofs.CommandLine.NegativeNumbers
import ThresholdCheck.Proofs.Range.Overflow
import ThresholdCheck.Proofs.PerfData.Record
import ThresholdCheck.Proofs.Range.Reported
import ThresholdCheck.Proofs.Range.Interference
import ThresholdCheck.Proofs.Range.Rounded
import ThresholdCheck.Proofs.Check.Slots
import ThresholdCheck.Proofs.CommandLine.Failures
import ThresholdCheck.Proofs.Decimal.Faithful
import ThresholdCheck.Proofs.Range.Reread
import ThresholdCheck.Proofs.Check.Measurements
