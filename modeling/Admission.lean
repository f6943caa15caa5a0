import Admission.Proofs.AllOrNothing
import Admission.Proofs.Calls
import Admission.Proofs.MetricsTruth
import Admission.Proofs.Observers
import Admission.Proofs.PoolLedger
import Admission.Proofs.PoolQueue
import Admission.Proofs.Restart
import Admission.Proofs.Returns
import Admission.Proofs.Settlements
import Admission.Proofs.TokenTruth
import Admission.Scenario.BusScript
import Admission.Scenario.MetricsScript
import Admission.Scenario.Report
import Admission.Scenario.ResourceScript
import Admission.Proofs.ContextCalls
import Admission.Proofs.Causes
import Admission.Proofs.Finality
import Admission.Proofs.Alarms
import Admission.Proofs.SignalActs
import Admission.Proofs.Clones
import Admission.Proofs.TimerRuns
import Admission.Proofs.SignalTruth
import Admission.Proofs.Neighbours
import Admission.Proofs.Conditions
import Admission.Proofs.Enrolment
import Admission.Proofs.Endings
import Admission.Proofs.Repayments
import Admission.Proofs.Dealings
import Admission.Proofs.ReturnTruth
